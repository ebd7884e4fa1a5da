import PatternSuite.Json.Fault
import PatternSuite.Text.Turns

/-!
# Scanning JSON texts

Reading a text byte by byte. A text at hand and a text that arrives as a stream are read alike, but
places are told differently: in a stream a byte that was looked at counts as read.

* `Read`: a reader; it leaves the scan where it stopped, also when it fails.
-/

namespace PatternSuite.Json

open Text

/-- Where a text comes from. -/
inductive Source
  /-- It is at hand as a whole. -/
  | whole
  /-- It arrives byte by byte. -/
  | stream
  deriving DecidableEq, Repr

/-- Where reading stands. -/
structure Scan where
  /-- The bytes not yet read. -/
  rest : List UInt8
  source : Source
  /-- The place of the next byte. -/
  place : Position := ⟨1, 0⟩
  /-- Has the next byte been looked at? -/
  peeked : Bool := false

/-- A reader of a part of a text. -/
abbrev Read := ExceptT Fault (StateM Scan)

namespace Scan

/-- The place behind the next byte, if there is one. -/
def beyond (s : Scan) : Position :=
  match s.rest with
  | [] => s.place
  | b :: _ => s.place.after b

/-- The place where reading stands. -/
def here (s : Scan) : Position :=
  match s.source with
  | .whole => s.place
  | .stream => if s.peeked then s.beyond else s.place

/-- The place of the byte that was looked at. -/
def ahead (s : Scan) : Position :=
  match s.source with
  | .whole => s.beyond
  | .stream => s.here

/-- The scan behind the next byte. -/
def advance (s : Scan) : Scan :=
  match s.rest with
  | [] => s
  | b :: bs => { s with rest := bs, place := s.place.after b, peeked := false }

end Scan

/-- Is the byte a blank? -/
def isBlank (b : UInt8) : Bool := b == 32 || b == 10 || b == 9 || b == 13

/-- Is the byte a digit? -/
def isDigit (b : UInt8) : Bool := 48 ≤ b && b ≤ 57

/-- The byte of an ASCII character. -/
def byte (c : Char) : UInt8 := UInt8.ofNat c.toNat

namespace Read

/-- Fails; the place is where reading stands. -/
def failHere {α : Type} (c : Cause) : Read α := do throw ⟨c, some (← get).here⟩

/-- Fails; the place is that of the byte that was looked at. -/
def failAhead {α : Type} (c : Cause) : Read α := do throw ⟨c, some (← get).ahead⟩

/-- Fails; the place is where the value that is being read ends. -/
def failValue {α : Type} (c : Cause) : Read α := throw ⟨c, none⟩

/-- Looks at the next byte. -/
def peek : Read (Option UInt8) :=
  modifyGet fun s =>
    match s.rest with
    | [] => (none, s)
    | b :: _ => (some b, { s with peeked := true })

/-- Reads the byte that was looked at. -/
def eat : Read Unit := modify Scan.advance

/-- Reads the next byte. -/
def next : Read (Option UInt8) := modifyGet fun s => (s.rest.head?, s.advance)

/-- Takes turns until one is the last. -/
def repeatedly {α β : Type} [Inhabited β] (step : α → Read (Turn α β)) (a : α) : Read β := do
  takeTurns step ((← get).rest.length + 2) a

/-- Passes over blanks and looks at what follows. -/
def skipBlanks : Read (Option UInt8) :=
  repeatedly (fun (_ : Unit) => do
    match ← peek with
    | some b =>
      if isBlank b then
        eat
        return .again ()
      else return .done (some b)
    | none => return .done none) ()

/-- Passes over digits. -/
def skipDigits : Read Unit :=
  repeatedly (fun (_ : Unit) => do
    if (← peek).any isDigit then
      eat
      return .again ()
    else return .done ()) ()

/-- Reads what is left of a word. -/
def word (letters : List Char) : Read Unit :=
  match letters with
  | [] => return ()
  | c :: cs => do
    match ← next with
    | none => failHere .valueMissing
    | some b => if b = byte c then word cs else failHere .wordExpected

/-- Gives a fault of a reader a place, unless it has one: that where reading then stands. -/
def placed {α : Type} (m : Read α) : Read α := do
  try m catch f => do throw (f.placedAt (← get).here)

/-- Reads the end of something, also when its inside could not be read. A fault of the inside
counts more. -/
def closed {α : Type} (inside : Read α) (close : Read Unit) : Read α := do
  match ← (observing inside) with
  | .ok a =>
    close
    return a
  | .error f =>
    try close catch _ => pure ()
    throw f
where
  /-- Runs a reader and gives what it comes to. -/
  observing (m : Read α) : Read (Except Fault α) := do
    try return .ok (← m) catch f => return .error f

end Read

end PatternSuite.Json
