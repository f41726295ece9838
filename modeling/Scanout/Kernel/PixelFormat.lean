import Scanout.Frame.Format

/-!
# Pixel formats the kernel knows

The device refuses any other format before it asks the kernel for a framebuffer.
-/

namespace Scanout.Kernel

def formatNames : List String :=
  -- one or two channels
  ["C8  ", "R8  ", "R16 ", "RG88", "GR88", "RG32", "GR32",
  -- colours in 8 and 16 bits
    "RGB8", "BGR8", "XR12", "XB12", "RX12", "BX12", "AR12", "AB12", "RA12", "BA12",
    "XR15", "XB15", "RX15", "BX15", "AR15", "AB15", "RA15", "BA15", "RG16", "BG16",
  -- colours in 24, 32 and 64 bits
    "RG24", "BG24", "XR24", "XB24", "RX24", "BX24", "AR24", "AB24", "RA24", "BA24",
    "XR30", "XB30", "RX30", "BX30", "AR30", "AB30", "RA30", "BA30",
    "XR4H", "XB4H", "AR4H", "AB4H", "AB10",
  -- luma and chroma in one plane
    "YUYV", "YVYU", "UYVY", "VYUY", "AYUV", "XYUV", "VU24", "VU30", "Y210", "Y212", "Y216",
    "Y410", "Y412", "Y416", "XV30", "XV36", "XV48", "Y0L0", "X0L0", "Y0L2", "X0L2", "YU08", "YU10",
  -- colours with a separate alpha plane
    "XRA8", "XBA8", "RXA8", "BXA8", "R8A8", "B8A8", "R5A8", "B5A8",
  -- luma and chroma in two planes
    "NV12", "NV21", "NV16", "NV61", "NV24", "NV42", "NV15", "P210", "P010", "P012", "P016",
  -- luma and chroma in three planes
    "Q410", "Q401", "YUV9", "YVU9", "YU11", "YV11", "YU12", "YV12", "YU16", "YV16", "YU24", "YV24"]

/-- The flag that marks a format as big-endian, which alone is a code too. -/
def bigEndian : Fourcc := ⟨0x80000000⟩

private def ofName (name : String) : Option Fourcc :=
  match name.toList with
  | [a, b, c, d] => some (.ofChars a b c d)
  | _ => none

def knownFormats : List Fourcc := bigEndian :: formatNames.filterMap ofName

end Scanout.Kernel
