import ScriptedTemplate.Program
import ScriptedTemplate.Proofs.Script.Lexing
import Mathlib.Data.List.Basic

/-
  Assembly by places — what a slice becomes depends on the slice before it

  Slices are assembled in one pass that remembers whether the last slice was code.
  What it remembers can be read off the list: a slice is trimmed when the slice in
  front of it is code, valid or not, and whether it is left out is decided after
  that. So a list can be assembled in two parts, except where the second part
  begins with a text that the end of the first one would have trimmed.

  What is proved: `assemble_eq_placed` — the program of slices is made of their
  renderings, each slice as it stands at its place, those that are not valid left
  out; it is empty exactly when its text is; and the text of two lists assembled as
  one is that of the two assembled apart exactly when no text is trimmed across the
  seam.
-/

namespace ScriptedTemplate

namespace Slice

theorem render_ne_nil (x : Slice) : x.render ≠ [] := by
  cases x with
  | text p => exact List.cons_ne_nil _ _
  | code p => exact List.cons_ne_nil _ _
  | output p => exact List.cons_ne_nil _ _

/-- The payload begins with spaces, or without any, and a line end. -/
def BeginsIndented (p rest : Text) : Prop :=
  ∃ n : Nat, p = List.replicate n ' ' ++ '\\' :: 'n' :: rest

theorem dropIndent_of_beginsIndented {p rest : Text} (h : BeginsIndented p rest) :
    dropIndent p = rest := by
  obtain ⟨n, rfl⟩ := h
  have hspaces : ∀ c ∈ List.replicate n ' ', (c == ' ') = true := by
    intro c hc
    rw [List.eq_of_mem_replicate hc]
    rfl
  rw [dropIndent, List.dropWhile_append_of_pos hspaces]
  rfl

theorem dropIndent_of_not_beginsIndented {p : Text} (h : ∀ rest, ¬ BeginsIndented p rest) :
    dropIndent p = p := by
  rw [dropIndent]
  split
  · next rest hrest =>
    have hspaces : p.takeWhile (· == ' ') =
        List.replicate (p.takeWhile (· == ' ')).length ' ' := by
      refine List.eq_replicate_of_mem ?_
      intro c hc
      have hspaces := List.all_eq_true.mp (List.all_takeWhile (p := (· == ' '))) c hc
      exact eq_of_beq hspaces
    refine absurd ⟨(p.takeWhile (· == ' ')).length, ?_⟩ (h rest)
    rw [← hspaces, ← hrest, List.takeWhile_append_dropWhile]
  · rfl

/-- The payload of a text that is shortened by trimming becomes shorter in the
program. -/
theorem length_render_dropIndent {p rest : Text} (h : BeginsIndented p rest) :
    (text (dropIndent p)).render.length < (text p).render.length := by
  rw [dropIndent_of_beginsIndented h]
  obtain ⟨n, rfl⟩ := h
  simp only [render_text, callText, quoted, List.length_append, List.length_cons]
  omega

end Slice

namespace Program

/-- Every slice as it stands at its place: trimmed behind code. -/
def placed (trim : Bool) (ss : List Slice) : List Slice :=
  List.zipWith (fun afterCode x => if afterCode && trim then Slice.trimLeading x else x)
    (false :: ss.map Slice.isCode) ss

/-- A text at the start of `ys` that is trimmed when it stands behind `xs`. -/
def TrimsAcross (trim : Bool) (xs ys : List Slice) : Prop :=
  trim = true ∧ (∃ p, xs.getLast? = some (.code p)) ∧
    ∃ p rest, ys.head? = some (.text p) ∧ Slice.BeginsIndented p rest

variable {trim : Bool}

/-! ## Places -/

/-- The pass over slices leaves out what is not valid at its place. The induction is on
the slices; what the pass remembers is the first of the flags. -/
theorem emitted_eq_filter_zipWith (ss : List Slice) : ∀ after : Bool, emitted trim after ss =
    (List.zipWith (fun afterCode x => if afterCode && trim then Slice.trimLeading x else x)
      (after :: ss.map Slice.isCode) ss).filter Slice.isValid := by
  induction ss with
  | nil => intro after; rfl
  | cons x ss ih =>
    intro after
    rw [emitted, ih, List.map_cons, List.zipWith_cons_cons, List.filter_cons]

theorem emitted_eq_filter_placed (ss : List Slice) :
    emitted trim false ss = (placed trim ss).filter Slice.isValid :=
  emitted_eq_filter_zipWith ss false

/-- At a place stands the slice that was there, trimmed if the place before it holds
code. -/
theorem placed_getElem? (ss : List Slice) (i : Nat) :
    (placed trim ss)[i]? = (ss[i]?).map fun x =>
      if 0 < i && (ss[i - 1]?).any Slice.isCode && trim then x.trimLeading else x := by
  have hflag : ss[i]?.isSome →
      (false :: ss.map Slice.isCode)[i]? = some (0 < i && (ss[i - 1]?).any Slice.isCode) := by
    intro hi
    cases i with
    | zero => rfl
    | succ i =>
      obtain ⟨hlt, -⟩ := List.getElem?_eq_some_iff.mp (Option.eq_some_of_isSome hi)
      have hbefore : i < ss.length := Nat.lt_of_succ_lt hlt
      simp [hbefore]
  rw [placed, List.getElem?_zipWith']
  cases hx : ss[i]? with
  | none => simp
  | some x =>
    rw [hflag (by rw [hx]; rfl)]
    rfl

/-! ## Two parts -/

/-- What the pass remembers after slices. -/
def endsInCode (after : Bool) (ss : List Slice) : Bool := (ss.getLast?.map Slice.isCode).getD after

theorem endsInCode_cons (after : Bool) (x : Slice) (ss : List Slice) :
    endsInCode after (x :: ss) = endsInCode x.isCode ss := by
  rw [endsInCode, endsInCode, List.getLast?_cons]
  cases ss.getLast? <;> rfl

theorem endsInCode_iff {xs : List Slice} :
    endsInCode false xs = true ↔ ∃ p, xs.getLast? = some (.code p) := by
  rw [endsInCode]
  cases xs.getLast? with
  | none => simp
  | some x => cases x <;> simp [Slice.isCode]

theorem emitted_append (xs ys : List Slice) : ∀ after : Bool,
    emitted trim after (xs ++ ys) =
      emitted trim after xs ++ emitted trim (endsInCode after xs) ys := by
  induction xs with
  | nil => intro after; rfl
  | cons x xs ih =>
    intro after
    simp only [List.cons_append, emitted, ih, endsInCode_cons]
    split <;> split <;> rfl

/-- What is remembered matters for a text that begins with an indent, and for
nothing else. -/
theorem emitted_congr {after : Bool} {ys : List Slice}
    (h : (after && trim) = true →
      ∀ p rest, ys.head? = some (.text p) → ¬ Slice.BeginsIndented p rest) :
    emitted trim after ys = emitted trim false ys := by
  cases ys with
  | nil => rfl
  | cons y ys =>
    have hkept : (if after && trim then y.trimLeading else y) = y := by
      split
      · next hafter =>
        cases y with
        | text p =>
          exact congrArg Slice.text
            (Slice.dropIndent_of_not_beginsIndented fun rest => h hafter p rest rfl)
        | code p => rfl
        | output p => rfl
      · rfl
    simp only [emitted, hkept, Bool.false_and, Bool.false_eq_true, if_false]

theorem emitted_append_of_not_trimsAcross {xs ys : List Slice} (h : ¬ TrimsAcross trim xs ys) :
    emitted trim false (xs ++ ys) = emitted trim false xs ++ emitted trim false ys := by
  have hseam : emitted trim (endsInCode false xs) ys = emitted trim false ys := by
    refine emitted_congr ?_
    intro hafter p rest hhead hindent
    obtain ⟨hcode, htrim⟩ := Bool.and_eq_true_iff.mp hafter
    exact h ⟨htrim, endsInCode_iff.mp hcode, p, rest, hhead, hindent⟩
  rw [emitted_append, hseam]

theorem source_lt_of_trimsAcross {xs ys : List Slice} (h : TrimsAcross trim xs ys) :
    (assemble (xs ++ ys) trim).source.length <
      (assemble xs trim).source.length + (assemble ys trim).source.length := by
  obtain ⟨rfl, hcode, p, rest, hhead, hindent⟩ := h
  obtain ⟨ys, rfl⟩ : ∃ ys', ys = .text p :: ys' := by
    cases ys with
    | nil => cases hhead
    | cons y ys => cases hhead; exact ⟨ys, rfl⟩
  have hlength := Slice.length_render_dropIndent hindent
  have hvalid : (Slice.text p).isValid = true := by
    obtain ⟨n, rfl⟩ := hindent
    simp [Slice.isValid]
  simp only [assemble, ofFragments, emitted_append, endsInCode_iff.mpr hcode, List.flatMap_append,
    List.length_append, emitted, Bool.and_self, Bool.false_and, if_true, Bool.false_eq_true,
    if_false, hvalid, Slice.trimLeading]
  split
  · simp only [List.flatMap_cons, List.length_append]
    omega
  · simp only [List.flatMap_cons, List.length_append]
    have hpos := List.length_pos_iff.mpr (Slice.render_ne_nil (.text p))
    omega

end Program

/-- The program of slices is told by their places. A slice is trimmed when trimming is on
and the slice in front of it is code, and those that are valid then are rendered one
after the other. Two lists assembled as one give the text and the number of fragments
that they give apart, unless a text that begins with an indent stands behind code
across the seam; and then the text is another one. -/
theorem assemble_eq_placed (trim : Bool) (ss : List Slice) :
    (∀ i : Nat, (Program.placed trim ss)[i]? = (ss[i]?).map fun x =>
      if 0 < i && (ss[i - 1]?).any Slice.isCode && trim then x.trimLeading else x) ∧
    (Program.assemble ss trim).source =
      ((Program.placed trim ss).filter Slice.isValid).flatMap Slice.render ∧
    (Program.assemble ss trim).fragments =
      ((Program.placed trim ss).filter Slice.isValid).length ∧
    ((Program.assemble ss trim).isEmpty = true ↔ (Program.assemble ss trim).source = []) ∧
    ∀ ys,
      ((Program.assemble (ss ++ ys) trim).source =
          (Program.assemble ss trim).source ++ (Program.assemble ys trim).source ↔
        ¬ Program.TrimsAcross trim ss ys) ∧
      (¬ Program.TrimsAcross trim ss ys →
        (Program.assemble (ss ++ ys) trim).fragments =
          (Program.assemble ss trim).fragments + (Program.assemble ys trim).fragments) := by
  have hemitted : Program.emitted trim false ss = _ := Program.emitted_eq_filter_placed ss
  refine ⟨Program.placed_getElem? ss, ?_, ?_, ?_, ?_⟩
  · rw [← hemitted]
    rfl
  · rw [← hemitted]
    rfl
  · simp only [Program.isEmpty, Program.assemble, Program.ofFragments, beq_iff_eq,
      List.length_eq_zero_iff, List.flatMap_eq_nil_iff]
    constructor
    · intro hnil x hx
      rw [hnil] at hx
      cases hx
    · intro hall
      exact List.eq_nil_iff_forall_not_mem.mpr fun x hx => Slice.render_ne_nil x (hall x hx)
  · intro ys
    refine ⟨⟨?_, ?_⟩, ?_⟩
    · intro hsource hacross
      have hlt := Program.source_lt_of_trimsAcross hacross
      rw [hsource, List.length_append] at hlt
      exact Nat.lt_irrefl _ hlt
    · intro hseam
      simp only [Program.assemble, Program.ofFragments,
        Program.emitted_append_of_not_trimsAcross hseam, List.flatMap_append]
    · intro hseam
      simp only [Program.assemble, Program.ofFragments,
        Program.emitted_append_of_not_trimsAcross hseam, List.length_append]

/-- Behind a text nothing is trimmed, so these two lists can be assembled apart. -/
theorem assemble_eq_placed_behind_text :
    ¬ Program.TrimsAcross true [.code ['x'], .text ['a']] [.text [' ', '\\', 'n'], .output ['y']] ∧
    (Program.assemble [.code ['x'], .text ['a'], .text [' ', '\\', 'n'], .output ['y']]
      true).fragments = 2 + 2 := by
  have hseam : ¬ Program.TrimsAcross true [.code ['x'], .text ['a']]
      [.text [' ', '\\', 'n'], .output ['y']] := by
    rintro ⟨-, ⟨p, hp⟩, -⟩
    cases hp
  have hapart := assemble_eq_placed true [.code ['x'], .text ['a']]
  exact ⟨hseam, (hapart.2.2.2.2 [.text [' ', '\\', 'n'], .output ['y']]).2 hseam⟩

/-- Code that is left out trims the text behind it all the same. -/
example : Program.assemble [.code [' '], .text [' ', '\\', 'n', 'b']] true =
    Program.ofFragments [.text ['b']] := rfl

end ScriptedTemplate
