import SurfaceBridge.CommandLine.Run
import SurfaceBridge.Proofs.Report.Reader

/-! A report as a program reads it, as a person reads it, and as an exit status. Whatever its names, messages and
details hold, the three agree. -/
namespace SurfaceBridge.Report

namespace Json

def text? : Json → Option String
  | text value => some value
  | _ => none

def texts? : Json → Option (List String)
  | list items => items.mapM text?
  | _ => none

end Json

def Status.ofName? : String → Option Status
  | "pass" => some .pass
  | "fail" => some .fail
  | "warn" => some .warn
  | "skip" => some .skip
  | _ => none

/-- What is read back item by item is read back as a list. -/
theorem mapM_map_eq {α β : Type} (write : α → β) {read : β → Option α}
    (back : ∀ item, read (write item) = some item) (items : List α) : (items.map write).mapM read = some items := by
  induction items with
  | nil => rfl
  | cons item items ih =>
    rw [List.map_cons, List.mapM_cons, back, ih]
    rfl

namespace Check

/-- The check that an object describes. One without the key of details has none. -/
def ofJson? : Json → Option Check
  | .object fields => do
    let name ← (← fields.lookup "name").text?
    let status ← Status.ofName? (← (← fields.lookup "status").text?)
    let message ← (← fields.lookup "message").text?
    match fields.lookup "details" with
    | none => return { name, status, message }
    | some details => return { name, status, message, details := ← details.texts? }
  | _ => none

/-- The keys of an object, in order. -/
def keys : Json → List String
  | .object fields => fields.map (·.1)
  | _ => []

theorem ofJson?_json (check : Check) : ofJson? check.json = some check := by
  obtain ⟨name, status, message, details⟩ := check
  have named : Status.ofName? status.name = some status := by cases status <;> rfl
  have texts : (Json.list (details.map .text)).texts? = some details := by
    show (details.map Json.text).mapM Json.text? = _
    exact mapM_map_eq Json.text (fun _ => rfl) details
  cases details with
  | nil =>
    show (Status.ofName? status.name).bind _ = _
    rw [named]
    rfl
  | cons first rest =>
    show (Status.ofName? status.name).bind _ = _
    rw [named]
    show (Json.list ((first :: rest).map .text)).texts?.bind _ = _
    rw [texts]
    rfl

theorem keys_json (check : Check) :
    keys check.json = ["name", "status", "message"] ++ if check.details = [] then [] else ["details"] := by
  obtain ⟨name, status, message, details⟩ := check
  cases details <;> rfl

end Check

theorem foldl_append_eq (parts : List String) (front : String) :
    parts.foldl (· ++ ·) front = front ++ String.join parts := by
  rw [String.join]
  induction parts generalizing front with
  | nil => exact String.append_empty.symm
  | cons part parts ih =>
    rw [List.foldl_cons, List.foldl_cons, ih, ih ("" ++ part), String.empty_append, String.append_assoc]

theorem join_append (front back : List String) :
    String.join (front ++ back) = String.join front ++ String.join back := by
  rw [String.join, List.foldl_append, foldl_append_eq]
  rfl

/-- The totals stand in the last line that is not blank. -/
theorem listing_totals (checks : List Check) :
    ∃ front, listing checks = front ++ "\n" ++ totals checks ++ "\n\n" := by
  refine ⟨String.join ((["", title, "=======================================", ""] ++ checks.flatMap Check.lines ++
    [""]).map (· ++ "\n")) ++ "---------------------------------------", ?_⟩
  show String.join ((["", title, "=======================================", ""] ++ checks.flatMap Check.lines ++
    ([""] ++ ["---------------------------------------", totals checks, ""])).map (· ++ "\n")) = _
  rw [← List.append_assoc, List.map_append, join_append]
  have last : String.join (["---------------------------------------", totals checks, ""].map (· ++ "\n")) =
      "---------------------------------------" ++ "\n" ++ totals checks ++ "\n\n" := by
    simp [String.join, String.append_assoc]
  rw [last]
  simp only [String.append_assoc]

theorem length_eq_count (checks : List Check) :
    checks.length = count .pass checks + count .fail checks + count .warn checks + count .skip checks := by
  induction checks with
  | nil => rfl
  | cons check checks ih =>
    obtain ⟨name, status, message, details⟩ := check
    simp only [count] at ih
    cases status <;> simp [count, ih] <;> omega

/-- Printed for a program, a report is one line that is read back as the same checks; the totals printed for a person
count those checks by status; and either way the exit status tells whether one of them failed. -/
theorem views_agree (checks : List Check) : ∃ line items,
    (CommandLine.Outcome.ofReport checks true).output = line ++ "\n" ∧
    line.toList.all (0x20 ≤ ·.toNat) = true ∧
    Json.read? line = some (.list items) ∧
    items.mapM Check.ofJson? = some checks ∧
    items.map Check.keys = checks.map (fun check =>
      ["name", "status", "message"] ++ if check.details = [] then [] else ["details"]) ∧
    (∃ front, (CommandLine.Outcome.ofReport checks false).output = front ++ "\n" ++
      ("  " ++ toString (checks.countP (·.status = .pass)) ++ " passed, " ++
        toString (checks.countP (·.status = .fail)) ++ " failed, " ++
        toString (checks.countP (·.status = .warn)) ++ " warnings") ++ "\n\n") ∧
    checks.length = checks.countP (·.status = .pass) + checks.countP (·.status = .fail) +
      checks.countP (·.status = .warn) + checks.countP (·.status = .skip) ∧
    ∀ json, ((CommandLine.Outcome.ofReport checks json).status = 1 ↔ ∃ check ∈ checks, check.status = .fail) ∧
      ((CommandLine.Outcome.ofReport checks json).status = 0 ↔ ¬∃ check ∈ checks, check.status = .fail) := by
  have failure : failed checks = true ↔ ∃ check ∈ checks, check.status = .fail := by simp [failed]
  refine ⟨String.ofList (Json.list (checks.map Check.json)).chars, checks.map Check.json, rfl, ?_,
    Json.read?_chars _, mapM_map_eq Check.json Check.ofJson?_json checks, ?_, listing_totals checks,
    length_eq_count checks, fun json => ?_⟩
  · rw [String.toList_ofList, List.all_eq_true]
    exact fun c among => decide_eq_true (Json.shown_chars _ c among)
  · rw [List.map_map]
    exact List.map_congr_left fun check _ => Check.keys_json check
  · rw [← failure, CommandLine.Outcome.ofReport]
    cases failed checks <;> simp

example : jsonLine [⟨"a\"b", .warn, "one\ntwo", ["é\x01"]⟩] =
    "[\x7b\"name\":\"a\\\"b\",\"status\":\"warn\"," ++
      "\"message\":\"one\\ntwo\",\"details\":[\"é\\u0001\"]\x7d]\n" := by
  decide +kernel

end SurfaceBridge.Report
