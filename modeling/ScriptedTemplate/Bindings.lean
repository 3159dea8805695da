import ScriptedTemplate.Value.Identity

/-
  Bindings — names and their values

  A name has one value at most; the names are kept in order, so bindings that
  give the same names the same values are the same, whatever order they were
  made in. `get?_insert` and `get?_insertAll` say what insertions do to every
  name.
-/

namespace ScriptedTemplate

/-- Names in ascending order, each with its value. -/
abbrev Bindings := List (String × Value)

namespace Bindings

def empty : Bindings := []

def get? (s : String) : Bindings → Option Value
  | [] => none
  | (t, v) :: rest => if s = t then some v else get? s rest

/-- Give a name a value; the one it had is lost. -/
def insert (s : String) (v : Value) : Bindings → Bindings
  | [] => [(s, v)]
  | (t, w) :: rest =>
    if s = t then (s, v) :: rest
    else if s < t then (s, v) :: (t, w) :: rest
    else (t, w) :: insert s v rest

theorem get?_insert (s t : String) (v : Value) (b : Bindings) :
    (b.insert s v).get? t = if t = s then some v else b.get? t := by
  induction b with
  | nil => rfl
  | cons e rest ih =>
    obtain ⟨u, w⟩ := e
    simp only [insert]
    split
    · next h => subst h; by_cases ht : t = s <;> simp [get?, ht]
    · split
      · simp [get?]
      · next h _ =>
        by_cases ht : t = u
        · simp [get?, ht, Ne.symm h]
        · simp [get?, ht, ih]

def insertAll (b : Bindings) (es : List (String × Value)) : Bindings :=
  es.foldl (fun b e => b.insert e.1 e.2) b

/-- A name that insertions bind has the value that they give it, whatever it had
before, and every other name is left alone. -/
theorem get?_insertAll (t : String) (es : List (String × Value)) : ∀ b : Bindings,
    (b.insertAll es).get? t = ((empty.insertAll es).get? t).or (b.get? t) := by
  induction es with
  | nil => intro b; rfl
  | cons e es ih =>
    intro b
    have hcons : ∀ c : Bindings, (c.insertAll (e :: es)).get? t =
        ((empty.insertAll es).get? t).or (if t = e.1 then some e.2 else c.get? t) := by
      intro c
      rw [← get?_insert]
      exact ih _
    rw [hcons b, hcons empty, Option.or_assoc]
    congr 1
    split <;> rfl

/-- The same bindings with an identity for every container, new ones counted from
`n`, and the number after the last of them. -/
def identify (b : Bindings) (n : Nat) : Bindings × Nat :=
  b.foldr (fun (s, v) (b, n) =>
    let (v, next) := v.identify n
    ((s, v) :: b, next)) ([], n)

def names (b : Bindings) : List String := b.map (·.1)

end Bindings

end ScriptedTemplate
