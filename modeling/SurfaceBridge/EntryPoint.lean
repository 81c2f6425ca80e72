/-! The entry points of the presentation table, and how each one is backed. -/
namespace SurfaceBridge

/-- How an entry point is backed. -/
inductive Support where
  /-- Changes its arguments before it calls the native driver. -/
  | translated
  /-- Calls the native driver with its arguments unchanged. -/
  | forwarded
  /-- Answered from data of the driver. -/
  | static
  /-- Always fails, without a native call. -/
  | stub
  deriving DecidableEq

inductive EntryPoint where
  | acquireNextImage
  | createInstance
  | createSwapchain
  | createWin32Surface
  | destroyInstance
  | destroySurface
  | destroySwapchain
  | enumerateInstanceExtensionProperties
  | getDeviceProcAddr
  | getInstanceProcAddr
  | getPhysicalDeviceSurfaceCapabilities
  | getPhysicalDeviceSurfaceFormats
  | getPhysicalDeviceSurfacePresentModes
  | getPhysicalDeviceSurfaceSupport
  | getPhysicalDeviceWin32PresentationSupport
  | getSwapchainImages
  | queuePresent
  deriving DecidableEq

namespace EntryPoint

/-- All entry points, in table order. -/
def all : List EntryPoint := [
  acquireNextImage, createInstance, createSwapchain, createWin32Surface, destroyInstance,
  destroySurface, destroySwapchain, enumerateInstanceExtensionProperties, getDeviceProcAddr,
  getInstanceProcAddr, getPhysicalDeviceSurfaceCapabilities, getPhysicalDeviceSurfaceFormats,
  getPhysicalDeviceSurfacePresentModes, getPhysicalDeviceSurfaceSupport,
  getPhysicalDeviceWin32PresentationSupport, getSwapchainImages, queuePresent]

/-- The command's name. -/
def command : EntryPoint → String
  | acquireNextImage => "vkAcquireNextImageKHR"
  | createInstance => "vkCreateInstance"
  | createSwapchain => "vkCreateSwapchainKHR"
  | createWin32Surface => "vkCreateWin32SurfaceKHR"
  | destroyInstance => "vkDestroyInstance"
  | destroySurface => "vkDestroySurfaceKHR"
  | destroySwapchain => "vkDestroySwapchainKHR"
  | enumerateInstanceExtensionProperties => "vkEnumerateInstanceExtensionProperties"
  | getDeviceProcAddr => "vkGetDeviceProcAddr"
  | getInstanceProcAddr => "vkGetInstanceProcAddr"
  | getPhysicalDeviceSurfaceCapabilities => "vkGetPhysicalDeviceSurfaceCapabilitiesKHR"
  | getPhysicalDeviceSurfaceFormats => "vkGetPhysicalDeviceSurfaceFormatsKHR"
  | getPhysicalDeviceSurfacePresentModes => "vkGetPhysicalDeviceSurfacePresentModesKHR"
  | getPhysicalDeviceSurfaceSupport => "vkGetPhysicalDeviceSurfaceSupportKHR"
  | getPhysicalDeviceWin32PresentationSupport => "vkGetPhysicalDeviceWin32PresentationSupportKHR"
  | getSwapchainImages => "vkGetSwapchainImagesKHR"
  | queuePresent => "vkQueuePresentKHR"

def support : EntryPoint → Support
  | createInstance | createWin32Surface | destroySurface => .translated
  | destroyInstance | getDeviceProcAddr | getInstanceProcAddr
  | getPhysicalDeviceWin32PresentationSupport => .forwarded
  | enumerateInstanceExtensionProperties => .static
  | acquireNextImage | createSwapchain | destroySwapchain
  | getPhysicalDeviceSurfaceCapabilities | getPhysicalDeviceSurfaceFormats
  | getPhysicalDeviceSurfacePresentModes | getPhysicalDeviceSurfaceSupport
  | getSwapchainImages | queuePresent => .stub

/-- The table is in the order of the commands' names. -/
theorem command_ascending : (all.map command).Pairwise (· < ·) := by decide +kernel

theorem mem_all (op : EntryPoint) : op ∈ all := by cases op <;> decide

end EntryPoint
end SurfaceBridge
