/-!
# Text without control sequences

A terminal takes some characters as orders. What is shown is a text without them: control
characters are left out, and so is everything between an escape character and the end of the
sequence it begins.
-/

namespace Scanout.Text

/-- Where in a control sequence a place in a text is. -/
inductive SequenceState where
  | ground
  /-- Behind an escape character. -/
  | escape
  /-- Behind more characters that only begin a short sequence. -/
  | escapeMore
  /-- In a sequence of parameters that a letter ends. -/
  | parameters
  /-- In the parameters in front of a device string. -/
  | deviceHeader
  /-- In a device string or a message, which only another escape character ends. -/
  | deviceString
  /-- In a command to the system, which a bell ends. -/
  | systemCommand
  deriving DecidableEq, Repr

namespace SequenceState

/-- Characters that cancel any sequence. -/
def cancels (c : Char) : Bool := c = '\x18' || c = '\x1A'

def isControl (c : Char) : Bool := c.toNat < 0x20

def next (s : SequenceState) (c : Char) : SequenceState :=
  if c = '\x1B' then escape
  else if cancels c then ground
  else if isControl c then
    if s = systemCommand && c = '\x07' then ground else s
  else if 0x7F < c.toNat then
    -- one byte ends a device string, also inside the encoding of a character
    if s = deviceString && 0x9C ∈ String.utf8EncodeChar c then ground else s
  else if c = '\x7F' then s
  else
    match s with
    | ground => ground
    | escape =>
      if c < '0' then escapeMore
      else
        match c with
        | '[' => parameters
        | ']' => systemCommand
        | 'P' => deviceHeader
        | 'X' | '^' | '_' => deviceString
        | _ => ground
    | escapeMore => if c < '0' then escapeMore else ground
    | parameters => if c < '@' then parameters else ground
    | deviceHeader => if c < '@' then deviceHeader else deviceString
    | deviceString => deviceString
    | systemCommand => systemCommand

/-- The state is one in which control characters are taken at once. -/
def obeys (s : SequenceState) : Bool :=
  s ∉ [deviceHeader, deviceString, systemCommand]

/-- Control characters that move to the next word or line. -/
def spaces (c : Char) : Bool := c ∈ ['\t', '\n', '\x0C', '\r']

def shows (s : SequenceState) (c : Char) : Bool :=
  if isControl c then s.obeys && spaces c else s = ground && c ≠ '\x7F'

end SequenceState

/-- Keeps what can be seen. While `running`, characters are taken as they would be in no sequence,
up to the first that cannot be seen; so after a line end inside a sequence its rest is seen. -/
def visibleFrom : (running : Bool) → SequenceState → List Char → List Char
  | _, _, [] => []
  | true, s, c :: rest =>
    if SequenceState.ground.shows c then
      c :: visibleFrom true (if 0x7F < c.toNat then .ground else s) rest
    else
      let s := if c = '\x1B' then .escape else if SequenceState.cancels c then .ground else s
      visibleFrom false (s.next c) rest
  | false, s, c :: rest =>
    if s.shows c then c :: visibleFrom true (s.next c) rest
    else visibleFrom false (s.next c) rest

def visible (s : String) : String := String.ofList (visibleFrom false .ground s.toList)

end Scanout.Text
