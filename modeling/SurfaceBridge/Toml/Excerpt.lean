import SurfaceBridge.Toml.Value

/-! A place in a text, shown to a reader: line and column, the line itself, and carets under the place. -/
namespace SurfaceBridge.Toml

private def byteLength (text : List Char) : Nat := text.foldr (fun c n => c.utf8Size + n) 0

/-- The report of a complaint about a place. Columns count characters; the carets are as many as the place
has bytes on its first line, and at least one. -/
def excerpt (text : String) (span : Span) (complaint : String) : String :=
  let text := text.toList
  let before := text.take span.start
  let line := before.count '\n' + 1
  let column := (before.reverse.takeWhile (· ≠ '\n')).length
  let content := (before.reverse.takeWhile (· ≠ '\n')).reverse ++ (text.drop span.start).takeWhile (· ≠ '\n')
  let length := min (byteLength ((text.drop span.start).take (span.stop - span.start)))
    (byteLength content - column)
  let gutter := "".pushn ' ' ((toString line).length + 1)
  s!"TOML parse error at line {line}, column {column + 1}\n" ++
    gutter ++ "|\n" ++
    s!"{line} | " ++ String.ofList content ++ "\n" ++
    gutter ++ "|" ++ "".pushn ' ' (column + 1) ++ "".pushn '^' (max length 1) ++ "\n" ++
    complaint ++ "\n"

end SurfaceBridge.Toml
