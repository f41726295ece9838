import Scanout.Pattern.Cursor

/-!
# Groups

What stands behind an opening parenthesis: flags, a name, or nothing.
-/

namespace Scanout.Pattern

open Reading

/-- Ranges of letters beyond the first 128 characters. -/
def letterRanges : List (Nat × Nat) :=
  [(0xAA, 0xAA), (0xB5, 0xB5), (0xBA, 0xBA), (0xC0, 0xD6), (0xD8, 0xF6), (0xF8, 0x2C1),
    (0x370, 0x373), (0x376, 0x377), (0x37B, 0x37D), (0x37F, 0x37F), (0x386, 0x386),
    (0x388, 0x3F5), (0x3F7, 0x481), (0x48A, 0x556), (0x561, 0x587), (0x5D0, 0x5EA),
    (0x620, 0x657), (0x66E, 0x6D3), (0x904, 0x939), (0xE01, 0xE30), (0x10A0, 0x10FA),
    (0x10FC, 0x1248), (0x1E00, 0x1FBC), (0x2160, 0x2188), (0x2C00, 0x2CE4), (0x3005, 0x3007),
    (0x3041, 0x3096), (0x30A1, 0x30FA), (0x3105, 0x312F), (0x3400, 0x4DBF), (0x4E00, 0xA48C),
    (0xAC00, 0xD7A3), (0xF900, 0xFAD9), (0xFF21, 0xFF3A), (0xFF41, 0xFF5A), (0xFF66, 0xFFDC),
    (0x20000, 0x323AF)]

/-- Ranges of digits and other numbers beyond the first 128 characters. -/
def numberRanges : List (Nat × Nat) :=
  [(0xB2, 0xB3), (0xB9, 0xB9), (0xBC, 0xBE), (0x660, 0x669), (0x6F0, 0x6F9), (0x966, 0x96F),
    (0xE50, 0xE59), (0x2070, 0x2070), (0x2074, 0x2079), (0x2080, 0x2089), (0x2150, 0x215F),
    (0x2460, 0x249B), (0xFF10, 0xFF19)]

def isWithin (ranges : List (Nat × Nat)) (c : Char) : Bool :=
  ranges.any fun (first, last) => first ≤ c.toNat && c.toNat ≤ last

def isNameChar (isFirst : Bool) (c : Char) : Bool :=
  c = '_' || c.isAlpha || isWithin letterRanges c ||
    (!isFirst && (c ∈ ['.', '[', ']'] || c.isDigit || isWithin numberRanges c))

def nameChars (isFirst : Bool) : (fuel : Nat) → Reading (List Char)
  | 0 => return []
  | fuel + 1 => do
    match ← char? with
    | none | some '>' => return []
    | some c =>
      if isNameChar isFirst c then
        let _ ← bump
        return c :: (← nameChars false fuel)
      else refuse .nameInvalid (← charSpan)

def groupName : Reading Unit := do
  let start ← position
  let name := String.ofList (← nameChars true (← fuel))
  if ← atEnd then refuse .nameUnclosed (← here)
  let span ← since start
  let _ ← bump
  if name.isEmpty then refuse .nameEmpty (.empty start)
  let names := (← get).names
  match names.lookup name with
  | some other => refuse .nameTwice span other
  | none => modify fun c => { c with names := names ++ [(name, span)] }

def flag : Reading Flag := do
  match ← char? with
  | some 'i' => return .ignoreCase
  | some 'm' => return .multiLine
  | some 's' => return .dotAll
  | some 'U' => return .swapGreed
  | some 'u' => return .unicode
  | some 'R' => return .crlf
  | some 'x' => return .verbose
  | _ => refuse .flagUnknown (← charSpan)

structure FlagsRead where
  changes : List (FlagChange × Span)
  negation : Option Span
  /-- The negation, if it is what was read last. -/
  dangling : Option Span

/-- Flags, up to the colon or parenthesis behind them. None stands twice, and what is behind the
hyphen is unset. -/
def flags : (fuel : Nat) → FlagsRead → Reading (List FlagChange)
  | 0, _ => do refuse .flagExpected (← here)
  | fuel + 1, r => do
    match ← char? with
    | none | some ':' | some ')' =>
      match r.dangling with
      | some span => refuse .negationDangling span
      | none => return r.changes.map (·.1)
    | some c =>
      let span ← charSpan
      let r ← if c = '-' then
          match r.negation with
          | some other => refuse .negationTwice span other
          | none => pure { r with negation := some span, dangling := some span }
        else
          let flag ← flag
          match r.changes.find? (·.1.flag = flag) with
          | some (_, other) => refuse .flagTwice span other
          | none =>
            let change := ⟨flag, r.negation.isNone⟩
            pure { r with changes := r.changes ++ [(change, span)], dangling := none }
      if ← bump then flags fuel r else refuse .flagExpected (← here)

/-- What an opening parenthesis begins. -/
inductive Opening where
  /-- Flags for what follows. -/
  | flags (changes : List FlagChange) (span : Span)
  /-- A group, with the flags that hold in it, or none if it is numbered. -/
  | group (changes : Option (List FlagChange)) (opened : Span)

def opening : Reading Opening := do
  let opened ← charSpan
  let _ ← bump
  skip
  for text in ["?=", "?!", "?<=", "?<!"] do
    if ← accept text then refuse .lookAround (← since opened.first)
  let inner ← here
  if (← accept "?P<") || (← accept "?<") then
    if ← atEnd then refuse .nameUnclosed (← here)
    groupName
    return .group none opened
  else if ← accept "?" then
    if ← atEnd then refuse .groupUnclosed opened
    let changes ← flags (← fuel) ⟨[], none, none⟩
    let isGroup := (← char?) = some ':'
    let _ ← bump
    if isGroup then return .group (some changes) opened
    else if changes.isEmpty then refuse .nothingRepeated inner
    else return .flags changes (← since opened.first)
  else return .group none opened

end Scanout.Pattern
