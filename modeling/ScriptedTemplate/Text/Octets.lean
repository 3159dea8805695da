import ScriptedTemplate.Text.Basic

/-
  Octets — the text that bytes are shown as

  Bytes are read as UTF-8, one after the other. A first byte says how many follow it
  and between which bounds the next one lies. Where a byte does not fit, what has been
  read is shown as one replacement character, and the byte is taken as a first one.
-/

namespace ScriptedTemplate

namespace Octets

/-- What is shown for bytes that are no character. -/
def replacement : Char := Char.ofNat 0xFFFD

/-- A character of which the first bytes have been read: its code so far, and the bounds
of each byte that is to come. -/
structure Pending where
  code : Nat
  wanted : List (Nat × Nat)

def Pending.nothing : Pending := ⟨0, []⟩

/-- The bounds of a byte that is not the first of its character. -/
def later : Nat × Nat := (0x80, 0xBF)

/-- What begins with a byte. The second byte of some characters has narrower bounds, so
that no code is written longer than it need be, nor one that is no character. -/
def begun? (b : Nat) : Option Pending :=
  if b < 0x80 then some ⟨b, []⟩
  else if b < 0xC2 then none
  else if b < 0xE0 then some ⟨b - 0xC0, [later]⟩
  else if b < 0xF0 then
    let second := if b = 0xE0 then (0xA0, 0xBF) else if b = 0xED then (0x80, 0x9F) else later
    some ⟨b - 0xE0, [second, later]⟩
  else if b < 0xF5 then
    let second := if b = 0xF0 then (0x90, 0xBF) else if b = 0xF4 then (0x80, 0x8F) else later
    some ⟨b - 0xF0, [second, later, later]⟩
  else none

/-- The text that is there when something pending has been read on, and what is pending
then. -/
def settle : Option Pending → Text × Pending
  | none => ([replacement], .nothing)
  | some ⟨code, []⟩ => ([Char.ofNat code], .nothing)
  | some p => ([], p)

def step (p : Pending) (b : Nat) : Text × Pending :=
  match p.wanted with
  | [] => settle (begun? b)
  | (low, high) :: rest =>
    if low ≤ b ∧ b ≤ high then settle (some ⟨p.code * 64 + b % 64, rest⟩)
    else
      let (t, p) := settle (begun? b)
      (replacement :: t, p)

/-- The text of bytes behind what is pending. -/
def textFrom (p : Pending) : List UInt8 → Text
  | [] => if p.wanted = [] then [] else [replacement]
  | b :: bs => (step p b.toNat).1 ++ textFrom (step p b.toNat).2 bs

def text (bs : List UInt8) : Text := textFrom .nothing bs

end Octets

end ScriptedTemplate
