import Scanout.Kernel.Errno

/-!
# A simulated file system

Only as much of one as opening a file for reading and writing can tell apart: files, directories,
and a terminal that is not there.
-/

namespace Scanout.Simulation

inductive FileNode where
  | file
  /-- A device node without a device behind it. -/
  | orphan
  | directory (entries : List (String × FileNode))

namespace FileNode

def isDirectory : FileNode → Bool
  | directory _ => true
  | _ => false

def bare : FileNode := directory []

def devices : FileNode := directory
  [("null", file), ("zero", file), ("full", file), ("random", file), ("urandom", file),
    ("tty", orphan), ("ptmx", file), ("shm", bare), ("pts", bare), ("mqueue", bare), ("fd", bare)]

def configuration : FileNode := directory
  [("passwd", file), ("group", file), ("hosts", file), ("hostname", file)]

def root : FileNode := directory
  [("dev", devices), ("etc", configuration), ("bin", bare), ("boot", bare), ("home", bare),
    ("lib", bare), ("media", bare), ("mnt", bare), ("opt", bare), ("proc", bare), ("root", bare),
    ("run", bare), ("sbin", bare), ("srv", bare), ("sys", bare), ("tmp", bare), ("usr", bare),
    ("var", bare)]

/-- The directories above the one that relative paths start in, the nearest first. -/
def aboveStart : List FileNode := [bare, root]

def maxName : Nat := 255

def maxPath : Nat := 4095

/-- The node that the parts of a path lead to from a node, below the nodes in `above`. The way goes
on in directories only, also with a part that is empty. -/
def walk : (parts : List String) → (here : FileNode) → (above : List FileNode) →
    Except Errno FileNode
  | [], here, _ => .ok here
  | part :: rest, here, above =>
    match here with
    | directory entries =>
      if part.isEmpty || part = "." then walk rest here above
      else if part = ".." then
        match above with
        | [] => walk rest here []
        | parent :: above => walk rest parent above
      else if maxName < part.utf8ByteSize then .error Errno.nameTooLong
      else
        match entries.lookup part with
        | some node => walk rest node (here :: above)
        | none => .error Errno.noEntry
    | _ => .error Errno.notADirectory

def find (path : String) : Except Errno FileNode :=
  if path.isEmpty then .error Errno.noEntry
  else if maxPath < path.utf8ByteSize then .error Errno.nameTooLong
  else if path.startsWith "/" then walk (path.splitOn "/") root []
  else walk (path.splitOn "/") bare aboveStart

def openResult (path : String) : Except Errno Unit := do
  match ← find path with
  | file => .ok ()
  | orphan => .error Errno.noDevice
  | directory _ => .error Errno.isDirectory

end FileNode

end Scanout.Simulation
