import ScriptedTemplate.Json.Data
import ScriptedTemplate.Script.Machine
import ScriptedTemplate.Text.Edit

/-
  Data — the values that documents hold

  A document holds no handle and nothing that is undefined or invalid, at any
  depth. So a running program sees such a value as it is, whatever changes beside
  its frames, and identities, which are given to its containers, do not show.

  What is proved:
    1. `isData_toValue` — the value of a document is data.
    2. `IsData.identify`, `IsData.display_identify` — with identities it is data
       still, and its text is the same.
    3. `IsData.view` — a program sees it as it is.
-/

namespace ScriptedTemplate

namespace Value

/-- A value that a document can hold. -/
inductive IsData : Value → Prop where
  | none : IsData .none
  | bool (b : Bool) : IsData (.bool b)
  | int (n : Int) : IsData (.int n)
  | float (x : Float) : IsData (.float x)
  | string (s : String) (safe : Bool) : IsData (.string s safe)
  | seq {items : List Value} (id : Option Nat) : (∀ v ∈ items, IsData v) → IsData (.seq items id)
  | map {entries : List (Value × Value)} (id : Option Nat) : (∀ e ∈ entries, IsData e.1) →
      (∀ e ∈ entries, IsData e.2) → IsData (.map entries .plain id)

variable {v : Value}

theorem IsData.isUndefined (h : IsData v) : v.isUndefined = false := by cases h <;> rfl

theorem IsData.valid (h : IsData v) (m : Machine) : Run.valid v m = (.ok v, m) := by
  cases h <;> rfl

/-! ## Documents -/

theorem mem_insertEntry {k v : Value} {e : Value × Value} {es : List (Value × Value)}
    (h : e ∈ insertEntry k v es) : (e.1 = k ∨ ∃ f ∈ es, e.1 = f.1) ∧
      (e.2 = v ∨ ∃ f ∈ es, e.2 = f.2) := by
  induction es with
  | nil =>
    obtain rfl := List.mem_singleton.mp h
    exact ⟨.inl rfl, .inl rfl⟩
  | cons f rest ih =>
    obtain ⟨l, w⟩ := f
    have hold : ∀ {g}, g ∈ (l, w) :: rest → e = g → (e.1 = k ∨ ∃ f ∈ (l, w) :: rest, e.1 = f.1) ∧
        (e.2 = v ∨ ∃ f ∈ (l, w) :: rest, e.2 = f.2) := by
      intro g hg heq
      exact ⟨.inr ⟨g, hg, by rw [heq]⟩, .inr ⟨g, hg, by rw [heq]⟩⟩
    simp only [insertEntry] at h
    split at h
    · rcases List.mem_cons.mp h with rfl | h
      · exact ⟨.inl rfl, .inl rfl⟩
      · exact hold h rfl
    · rcases List.mem_cons.mp h with rfl | h
      · exact ⟨.inr ⟨(l, w), List.mem_cons_self, rfl⟩, .inl rfl⟩
      · exact hold (List.mem_cons_of_mem _ h) rfl
    · rcases List.mem_cons.mp h with rfl | h
      · exact hold List.mem_cons_self rfl
      · obtain ⟨hkey, hvalue⟩ := ih h
        constructor
        · rcases hkey with hkey | ⟨f, hf, hkey⟩
          · exact .inl hkey
          · exact .inr ⟨f, List.mem_cons_of_mem _ hf, hkey⟩
        · rcases hvalue with hvalue | ⟨f, hf, hvalue⟩
          · exact .inl hvalue
          · exact .inr ⟨f, List.mem_cons_of_mem _ hf, hvalue⟩

/-- A map is made of the keys and values that it was made from. -/
theorem isData_ofMap {es : List (Value × Value)} (hkeys : ∀ e ∈ es, IsData e.1)
    (hvalues : ∀ e ∈ es, IsData e.2) : IsData (ofMap (ofEntries es)) := by
  have hall : ∀ (es acc : List (Value × Value)), (∀ e ∈ es, IsData e.1 ∧ IsData e.2) →
      (∀ e ∈ acc, IsData e.1 ∧ IsData e.2) →
        ∀ e ∈ es.foldl (fun acc e => insertEntry e.1 e.2 acc) acc, IsData e.1 ∧ IsData e.2 := by
    intro es
    induction es with
    | nil => intro acc _ hacc; exact hacc
    | cons f es ih =>
      intro acc hes hacc
      obtain ⟨hf, hes⟩ := List.forall_mem_cons.mp hes
      refine ih _ hes ?_
      intro e he
      obtain ⟨hkey, hvalue⟩ := mem_insertEntry he
      constructor
      · rcases hkey with hkey | ⟨g, hg, hkey⟩
        · rw [hkey]; exact hf.1
        · rw [hkey]; exact (hacc g hg).1
      · rcases hvalue with hvalue | ⟨g, hg, hvalue⟩
        · rw [hvalue]; exact hf.2
        · rw [hvalue]; exact (hacc g hg).2
  have hentries := hall es [] (fun e he => ⟨hkeys e he, hvalues e he⟩) (by simp)
  exact .map _ (fun e he => (hentries e he).1) (fun e he => (hentries e he).2)

/-! ## Identities -/

theorem exists_of_mem_identifyAll {w : Value} (vs : List Value) : ∀ {n : Nat},
    w ∈ (identifyAll vs n).1 → ∃ v ∈ vs, ∃ k, w = (identify v k).1 := by
  induction vs with
  | nil => intro n h; cases h
  | cons v vs ih =>
    intro n h
    rcases List.mem_cons.mp h with rfl | h
    · exact ⟨v, List.mem_cons_self, n, rfl⟩
    · obtain ⟨v', hv', k, hk⟩ := ih h
      exact ⟨v', List.mem_cons_of_mem _ hv', k, hk⟩

theorem exists_of_mem_identifyEntries {f : Value × Value} (es : List (Value × Value)) :
    ∀ {n : Nat}, f ∈ (identifyEntries es n).1 →
      ∃ e ∈ es, (∃ k, f.1 = (identify e.1 k).1) ∧ ∃ k, f.2 = (identify e.2 k).1 := by
  induction es with
  | nil => intro n h; cases h
  | cons e es ih =>
    intro n h
    obtain ⟨k, v⟩ := e
    rcases List.mem_cons.mp h with rfl | h
    · exact ⟨(k, v), List.mem_cons_self, ⟨n, rfl⟩, _, rfl⟩
    · obtain ⟨e', he', hef⟩ := ih h
      exact ⟨e', List.mem_cons_of_mem _ he', hef⟩

/-- What identities do not change of an item they do not change of any. -/
theorem map_identifyAll {α : Type} (f : Value → α) {vs : List Value}
    (h : ∀ v ∈ vs, ∀ k, f (identify v k).1 = f v) : ∀ n,
      (identifyAll vs n).1.map f = vs.map f := by
  induction vs with
  | nil => intro n; rfl
  | cons v vs ih =>
    intro n
    obtain ⟨hv, hvs⟩ := List.forall_mem_cons.mp h
    exact List.cons_eq_cons.mpr ⟨hv n, ih hvs _⟩

theorem map_identifyEntries {es : List (Value × Value)}
    (hkeys : ∀ e ∈ es, ∀ k, (identify e.1 k).1.inner = e.1.inner)
    (hvalues : ∀ e ∈ es, ∀ k, (identify e.2 k).1.inner = e.2.inner) : ∀ n,
      (identifyEntries es n).1.map innerEntry = es.map innerEntry := by
  induction es with
  | nil => intro n; rfl
  | cons e es ih =>
    intro n
    obtain ⟨hkey, hkeys'⟩ := List.forall_mem_cons.mp hkeys
    obtain ⟨hvalue, hvalues'⟩ := List.forall_mem_cons.mp hvalues
    obtain ⟨k, v⟩ := e
    refine List.cons_eq_cons.mpr ⟨?_, ih hkeys' hvalues' _⟩
    simp only [innerEntry]
    rw [hkey, hvalue]

theorem inner_seq (items : List Value) (id : Option Nat) :
    (seq items id).inner = '[' :: innerItems items ++ [']'] := rfl

theorem inner_map (entries : List (Value × Value)) (id : Option Nat) :
    (map entries .plain id).inner = '{' :: innerEntries entries ++ ['}'] := rfl

/-- The text of a container depends on the texts of its items only. -/
theorem innerItems_eq_joined (vs : List Value) :
    innerItems vs = Text.joined [',', ' '] (vs.map inner) := by
  induction vs with
  | nil => rfl
  | cons v vs ih =>
    cases vs with
    | nil => rfl
    | cons w vs =>
      rw [innerItems, ih]
      rfl

theorem innerEntries_eq_joined (es : List (Value × Value)) :
    innerEntries es = Text.joined [',', ' '] (es.map innerEntry) := by
  induction es with
  | nil => rfl
  | cons e es ih =>
    cases es with
    | nil => rfl
    | cons f es =>
      rw [innerEntries, ih]
      rfl

/-- Identities change neither that a value is data nor its text inside a
container. -/
theorem IsData.identify (h : IsData v) :
    ∀ n, IsData (Value.identify v n).1 ∧ (Value.identify v n).1.inner = v.inner := by
  induction h with
  | none => intro n; exact ⟨.none, rfl⟩
  | bool b => intro n; exact ⟨.bool b, rfl⟩
  | int k => intro n; exact ⟨.int k, rfl⟩
  | float x => intro n; exact ⟨.float x, rfl⟩
  | string s safe => intro n; exact ⟨.string s safe, rfl⟩
  | @seq items id hitems ih =>
    intro n
    cases id with
    | some id => exact ⟨.seq _ hitems, rfl⟩
    | none =>
      simp only [Value.identify]
      split
      · refine ⟨.seq _ ?_, ?_⟩
        · intro w hw
          obtain ⟨v, hv, k, rfl⟩ := exists_of_mem_identifyAll items hw
          exact (ih v hv k).1
        · rw [inner_seq, inner_seq, innerItems_eq_joined, innerItems_eq_joined,
            map_identifyAll inner fun v hv k => (ih v hv k).2]
      · exact ⟨.seq _ hitems, rfl⟩
  | @map entries id hkeys hvalues ihkeys ihvalues =>
    intro n
    cases id with
    | some id => exact ⟨.map _ hkeys hvalues, rfl⟩
    | none =>
      simp only [Value.identify]
      refine ⟨.map _ ?_ ?_, ?_⟩
      · intro f hf
        obtain ⟨e, he, ⟨k, hk⟩, -⟩ := exists_of_mem_identifyEntries entries hf
        rw [hk]
        exact (ihkeys e he k).1
      · intro f hf
        obtain ⟨e, he, -, k, hk⟩ := exists_of_mem_identifyEntries entries hf
        rw [hk]
        exact (ihvalues e he k).1
      · rw [inner_map, inner_map, innerEntries_eq_joined, innerEntries_eq_joined,
          map_identifyEntries (fun e he k => (ihkeys e he k).2)
            (fun e he k => (ihvalues e he k).2)]

theorem IsData.display_identify (h : IsData v) (n : Nat) :
    (Value.identify v n).1.display = v.display := by
  have hinner := (h.identify n).2
  cases h with
  | none => rfl
  | bool b => rfl
  | int k => rfl
  | float x => rfl
  | string s safe => rfl
  | @seq items id hitems =>
    cases id with
    | some id => rfl
    | none =>
      simp only [Value.identify] at hinner ⊢
      split at hinner
      · next hnew => rw [if_pos hnew]; exact hinner
      · next hnew => rw [if_neg hnew]; exact hinner
  | @map entries id hkeys hvalues =>
    cases id with
    | some id => rfl
    | none => exact hinner

/-- The items of a list of data, after identities have been given to it. -/
theorem exists_identify_seq {items : List Value} (h : ∀ v ∈ items, IsData v) (n : Nat) :
    ∃ items', (Value.identify (.ofItems items) n).1 = .seq items' (some n) ∧
      (∀ w ∈ items', IsData w) ∧ items'.map display = items.map display := by
  simp only [ofItems, Value.identify]
  split
  · refine ⟨_, rfl, ?_, map_identifyAll display (fun v hv k => (h v hv).display_identify k) _⟩
    intro w hw
    obtain ⟨v, hv, k, rfl⟩ := exists_of_mem_identifyAll items hw
    exact ((h v hv).identify k).1
  · exact ⟨items, rfl, h, rfl⟩

/-! ## What programs see -/

theorem withHandlesAll_eq {f : Handle → Value} {vs : List Value}
    (h : ∀ v ∈ vs, Machine.withHandles f v = v) : Machine.withHandlesAll f vs = vs := by
  induction vs with
  | nil => rfl
  | cons v vs ih =>
    obtain ⟨hv, hvs⟩ := List.forall_mem_cons.mp h
    rw [Machine.withHandlesAll, hv, ih hvs]

theorem withHandlesEntries_eq {f : Handle → Value} {es : List (Value × Value)}
    (hkeys : ∀ e ∈ es, Machine.withHandles f e.1 = e.1)
    (hvalues : ∀ e ∈ es, Machine.withHandles f e.2 = e.2) :
    Machine.withHandlesEntries f es = es := by
  induction es with
  | nil => rfl
  | cons e es ih =>
    obtain ⟨hkey, hkeys'⟩ := List.forall_mem_cons.mp hkeys
    obtain ⟨hvalue, hvalues'⟩ := List.forall_mem_cons.mp hvalues
    obtain ⟨k, v⟩ := e
    rw [Machine.withHandlesEntries, ih hkeys' hvalues', Machine.withHandlesEntry, hkey, hvalue]

theorem IsData.withHandles (h : IsData v) (f : Handle → Value) : Machine.withHandles f v = v := by
  induction h with
  | none => rfl
  | bool b => rfl
  | int k => rfl
  | float x => rfl
  | string s safe => rfl
  | seq id _ ih => rw [Machine.withHandles, withHandlesAll_eq ih]
  | map id _ _ ihkeys ihvalues =>
    rw [Machine.withHandles, withHandlesEntries_eq ihkeys ihvalues]

theorem IsData.view (h : IsData v) (m : Machine) : m.view v = v := by
  unfold Machine.view
  split
  · rfl
  · rfl
  · split
    · rfl
    · exact h.withHandles _

end Value

open Value (IsData)

theorem Json.toValues_eq_map (js : List Json) : Json.toValues js = js.map Json.toValue := by
  induction js with
  | nil => rfl
  | cons j js ih => rw [Json.toValues, ih, List.map_cons]

mutual

theorem Json.isData_toValue : ∀ j : Json, IsData j.toValue
  | .null => .none
  | .bool b => .bool b
  | .int n => .int n
  | .float x => .float x
  | .string s => .string s false
  | .array items => .seq _ (Json.isData_toValues items)
  | .object fields =>
    Value.isData_ofMap (fun e he => (Json.isData_toEntries fields e he).1)
      (fun e he => (Json.isData_toEntries fields e he).2)

theorem Json.isData_toValues : ∀ js : List Json, ∀ v ∈ Json.toValues js, IsData v
  | [] => by simp [Json.toValues]
  | j :: js => List.forall_mem_cons.mpr ⟨Json.isData_toValue j, Json.isData_toValues js⟩

theorem Json.isData_toEntries : ∀ fs : List (String × Json), ∀ e ∈ Json.toEntries fs,
    IsData e.1 ∧ IsData e.2
  | [] => by simp [Json.toEntries]
  | (s, j) :: fs => List.forall_mem_cons.mpr
      ⟨⟨.string s false, Json.isData_toValue j⟩, Json.isData_toEntries fs⟩

end

end ScriptedTemplate
