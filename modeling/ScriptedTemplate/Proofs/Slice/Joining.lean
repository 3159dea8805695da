import ScriptedTemplate.Proofs.Slice.Payload
import ScriptedTemplate.Proofs.Slice.Verdict

/-
  Joins — a template that is written in two parts

  Where the detector has no beginning of a word in hand, a template can be cut in two:
  what follows is read as a template of its own. Only the text that ends the first
  part and the text that begins the second become one text.

  What is proved: `slice_append` — when the first part is sliced and leaves nothing in
  hand, both parts together are sliced exactly when the second is. The slices are those
  of the parts, with the two texts at the seam as one, whose payload is the two payloads
  unless a line end stands across the seam. When the second part is refused, both
  together are, for the same reason and at the same marker.
-/

namespace ScriptedTemplate

namespace Division

/-- The division with a text in front of its first piece. -/
def extend (a : Text) : Division → Division
  | ⟨[], tail⟩ => ⟨[], a ++ tail⟩
  | ⟨c :: cs, tail⟩ => ⟨⟨a ++ c.raw, c.marker⟩ :: cs, tail⟩

/-- The division with cuts in front of it. -/
def behind (cs : List Cut) (d : Division) : Division := ⟨cs ++ d.cuts, d.tail⟩

def head : Division → Text
  | ⟨[], tail⟩ => tail
  | ⟨c :: _, _⟩ => c.raw

theorem exists_extend (r : Recognizer) (a tail : Text) (cs : List Cut) (c : Cut) (cs' : List Cut) :
    ∃ cs₁ c₁, extend a ⟨cs ++ c :: cs', tail⟩ = ⟨cs₁ ++ c₁ :: cs', tail⟩ ∧
      cs₁.map Cut.marker = cs.map Cut.marker ∧ c₁.marker = c.marker ∧
      r.rejoin cs₁ [] ++ c₁.raw = a ++ (r.rejoin cs [] ++ c.raw) := by
  cases cs with
  | nil => exact ⟨[], ⟨a ++ c.raw, c.marker⟩, rfl, rfl, rfl, rfl⟩
  | cons d cs =>
    exact ⟨⟨a ++ d.raw, d.marker⟩ :: cs, c, rfl, rfl, rfl, by simp [Recognizer.rejoin]⟩

end Division

namespace Recognizer

open Trie (root)

/-- Behind this text the detector has nothing in hand that could become a word: it is
at the root, or at the node of a word that has just been seen. -/
def AtRest (r : Recognizer) (t : Text) : Prop :=
  r.stateFrom root t = root ∨ (r.trie.marker (r.stateFrom root t)).isSome

variable {r : Recognizer}

theorem Faithful.feed_atRest (hr : r.Faithful) {t : Text} (ht : r.AtRest t) (d : Char) :
    r.feed (r.stateFrom root t) d = r.feed root d := by
  rcases ht with hroot | hword
  · rw [hroot]
  · obtain ⟨m, hm⟩ := Option.isSome_iff_exists.mp hword
    have hheld := hr.walk_stateFrom t (p := []) (s := root) rfl
    exact hr.feed_word hheld ((hr.marker_eq hheld).symm.trans hm) d

/-- Division in two parts: the second goes on with the last piece of the first. -/
theorem cutFrom_append (r : Recognizer) (t u : Text) : ∀ (s : Nat) (piece : Text),
    r.cutFrom s piece (t ++ u) =
      (r.cutFrom (r.stateFrom s t) (r.cutFrom s piece t).tail.reverse u).behind
        (r.cutFrom s piece t).cuts := by
  induction t with
  | nil =>
    intro s piece
    simp only [List.nil_append, cutFrom, stateFrom, List.reverse_reverse]
    rfl
  | cons c t ih =>
    intro s piece
    simp only [List.cons_append, cutFrom, stateFrom]
    generalize r.feed s c = f
    obtain ⟨s', _ | m⟩ := f
    · exact ih s' (c :: piece)
    · simp only [ih s' []]
      rfl

/-- What stands in front of a piece that a fresh detector has begun stays in front of
it: a word that is seen lies in what this detector has read. -/
theorem Faithful.cutFrom_extend (hr : r.Faithful) (a t : Text) : ∀ u : Text,
    r.cutFrom (r.stateFrom root u) (u.reverse ++ a.reverse) t =
      (r.cutFrom (r.stateFrom root u) u.reverse t).extend a := by
  induction t with
  | nil =>
    intro u
    simp [cutFrom, Division.extend]
  | cons c t ih =>
    intro u
    have hgrown := ih (u ++ [c])
    have hword := @Faithful.word_suffix r hr u c
    have hstate : r.stateFrom root (u ++ [c]) = (r.feed (r.stateFrom root u) c).1 := by
      rw [stateFrom_append]
      rfl
    rw [hstate, List.reverse_append] at hgrown
    simp only [cutFrom]
    generalize r.feed (r.stateFrom root u) c = f at *
    obtain ⟨s', _ | m⟩ := f
    · exact hgrown
    · -- The word is not longer than what was read since the seam.
      have hlen : (r.word m).length ≤ (c :: u.reverse).length := by
        simpa using (hword rfl).length_le
      dsimp only
      rw [← List.cons_append, List.drop_append_of_le_length hlen, List.reverse_append,
        List.reverse_reverse]
      rfl

/-- A text behind which the detector is at rest and another one are divided together as
each by itself. -/
theorem Faithful.cut_append (hr : r.Faithful) {t : Text} (ht : r.AtRest t) (u : Text) :
    r.cut (t ++ u) = ((r.cut u).extend (r.cut t).tail).behind (r.cut t).cuts := by
  have hextend := hr.cutFrom_extend (r.cut t).tail u []
  rw [cut, cutFrom_append, cutFrom_congr (hr.feed_atRest ht)]
  exact congrArg _ hextend

end Recognizer

/-! ## Following cuts behind others -/

namespace Slicer

variable {s : Slicer}

theorem through_of_follow {tail : Text} : ∀ {cs : List Cut} {q : Mode} {before : List Text}
    {mark : Text} {ss : List Slice}, s.follow q before mark cs tail = .ok ss →
      q.through (cs.map Cut.marker) = some .text
  | [], q, before, mark, ss, h => by
    rw [follow] at h
    split at h
    · next hq => rw [hq]; rfl
    · cases h
  | c :: cs, q, before, mark, ss, h => by
    simp only [follow] at h
    split at h
    · cases h
    · next next hnext =>
      split at h
      · next rest hrest =>
        rw [List.map_cons, Mode.through_cons, hnext]
        exact through_of_follow hrest
      · cases h

theorem follow_of_ok {tail : Text} : ∀ {cs : List Cut} {q : Mode} {before : List Text}
    {mark : Text} {ss : List Slice}, s.follow q before mark cs tail = .ok ss →
      ∀ (before' : List Text) (mark' : Text), s.follow q before' mark' cs tail = .ok ss
  | [], q, before, mark, ss, h => by
    intro before' mark'
    rw [follow] at h ⊢
    split at h
    · next hq => rw [if_pos hq, h]
    · cases h
  | c :: cs, q, before, mark, ss, h => by
    intro before' mark'
    simp only [follow] at h ⊢
    split at h
    · cases h
    · next next hnext =>
      split at h
      · next rest hrest => simp only [follow_of_ok hrest, h]
      · cases h

theorem follow_extend {d : Division} {before : List Text} {mark : Text} {ss : List Slice}
    (h : s.follow .text before mark d.cuts d.tail = .ok ss) :
    ∃ back, ss = .ofText d.head :: back ∧ ∀ (a : Text) (before' : List Text) (mark' : Text),
      s.follow .text before' mark' (d.extend a).cuts (d.extend a).tail =
        .ok (.ofText (a ++ d.head) :: back) := by
  obtain ⟨_ | ⟨c, cs⟩, tail⟩ := d
  · cases h
    exact ⟨[], rfl, fun a before' mark' => rfl⟩
  · simp only [follow] at h
    split at h
    · cases h
    · next next hnext =>
      split at h
      · next rest hrest =>
        cases h
        refine ⟨rest, rfl, ?_⟩
        intro a before' mark'
        simp only [Division.extend, follow, hnext, follow_of_ok hrest]
        rfl
      · cases h

/-- Cuts that have been sliced leave their slices, but for the last text, in front of
what the cuts behind them give. -/
theorem follow_behind {d : Division} {ss : List Slice}
    (h : s.follow .text [] [] d.cuts d.tail = .ok ss) :
    ∃ front, ss = front ++ [.ofText d.tail] ∧ ∀ d' : Division, ∃ (before : List Text) (mark : Text),
      s.follow .text [] [] (d'.behind d.cuts).cuts (d'.behind d.cuts).tail =
        (s.follow .text before mark d'.cuts d'.tail).map (front ++ ·) := by
  obtain ⟨before, mark, front, -, hfollow⟩ := s.follow_append d.cuts [] [] (through_of_follow h)
  refine ⟨front, ?_, fun d' => ⟨before, mark, hfollow d'.cuts d'.tail⟩⟩
  have halone := hfollow [] d.tail
  rw [List.append_nil, h] at halone
  cases halone
  rfl

end Slicer

/-! ## Two parts of a template -/

namespace Slice

/-- The payloads of two texts and of both as one: a carriage return before a line feed
goes missing at the seam, everything else stays as it is. -/
theorem exists_payload_append (a b : Text) : ∃ p q joined,
    ofText a = .text p ∧ ofText b = .text q ∧ ofText (a ++ b) = .text joined ∧
    (a.getLast? = some '\r' ∧ b.head? = some '\n' → ∃ p', p = p' ++ ['\r'] ∧ joined = p' ++ q) ∧
    (¬ (a.getLast? = some '\r' ∧ b.head? = some '\n') → joined = p ++ q) := by
  refine ⟨escape a, escape b, escape (a ++ b), rfl, rfl, rfl, ?_, ?_⟩
  · rintro ⟨ha, hb⟩
    exact escape_append_lineEnd ha hb
  · intro hseam
    exact escape_append fun ha hb => hseam ⟨ha, hb⟩

end Slice

section Parts

variable {r : Recognizer} {width : Nat} {t u : Text} {ss ss' : List Slice}

/-- Behind a part that leaves nothing in hand, a part that is sliced gives its slices. -/
theorem slice_append_of_ok (hr : r.Faithful) (ht : r.AtRest t)
    (hss : Slicer.slice ⟨r, width⟩ t = .ok ss) (hss' : Slicer.slice ⟨r, width⟩ u = .ok ss') :
    ∃ front back, ss = front ++ [.ofText (r.cut t).tail] ∧ ss' = .ofText (r.cut u).head :: back ∧
      Slicer.slice ⟨r, width⟩ (t ++ u) =
        .ok (front ++ .ofText ((r.cut t).tail ++ (r.cut u).head) :: back) := by
  obtain ⟨front, hfront, hbehind⟩ := Slicer.follow_behind hss
  obtain ⟨back, hback, hextend⟩ := Slicer.follow_extend hss'
  refine ⟨front, back, hfront, hback, ?_⟩
  obtain ⟨before, mark, hfollow⟩ := hbehind ((r.cut u).extend (r.cut t).tail)
  rw [Slicer.slice, hr.cut_append ht, hfollow, hextend]
  rfl

/-- Behind a part that is sliced and leaves nothing in hand, a part that is refused is
refused for the same reason, at the same marker. -/
theorem slice_append_of_error (hr : r.Faithful) (ht : r.AtRest t)
    (hss : Slicer.slice ⟨r, width⟩ t = .ok ss) {e : SliceError}
    (he : Slicer.slice ⟨r, width⟩ u = .error e) :
    ∃ kind m before behind, (kind = SliceError.unexpected ∨ kind = SliceError.unclosed) ∧
      u = before ++ r.word m ++ behind ∧
      e = kind (.around width before (r.word m) behind) ∧
      Slicer.slice ⟨r, width⟩ (t ++ u) =
        .error (kind (.around width (t ++ before) (r.word m) behind)) := by
  obtain ⟨kind, cs₁, c, cs₂, hkind, hcuts, hrefusal⟩ := Slicer.exists_refusal he
  refine ⟨kind, c.marker, r.rejoin cs₁ [] ++ c.raw, r.rejoin cs₂ (r.cut u).tail, hkind,
    hr.split_of_cuts hcuts, ?_, ?_⟩
  · rw [Slicer.slice, hcuts, hrefusal rfl rfl Iff.rfl] at he
    exact (Except.error.inj he).symm
  · have hthrough : Mode.through .text ((r.cut t).cuts.map Cut.marker) = some .text :=
      Slicer.through_of_follow hss
    have hwhole : r.rejoin (r.cut t).cuts (r.cut t).tail = t :=
      (hr.cut_eq_iff.mp (rfl : r.cut t = _)).whole
    -- The seam may lie in the piece at fault, or in one before it; the marker stays.
    obtain ⟨cs₁', c', hextend, hmarkers, hmarker, hread⟩ :=
      Division.exists_extend r (r.cut t).tail (r.cut u).tail cs₁ c cs₂
    have hcut : r.cut (t ++ u) = ⟨(r.cut t).cuts ++ cs₁' ++ c' :: cs₂, (r.cut u).tail⟩ := by
      rw [hr.cut_append ht]
      generalize r.cut u = d at *
      obtain ⟨cuts, tail⟩ := d
      obtain rfl : cuts = cs₁ ++ c :: cs₂ := hcuts
      rw [hextend, Division.behind, List.append_assoc]
    have hbefore : r.rejoin ((r.cut t).cuts ++ cs₁') [] ++ c'.raw =
        t ++ (r.rejoin cs₁ [] ++ c.raw) := by
      calc r.rejoin ((r.cut t).cuts ++ cs₁') [] ++ c'.raw
          = r.rejoin (r.cut t).cuts [] ++ (r.rejoin cs₁' [] ++ c'.raw) := by
            rw [r.rejoin_append, List.append_assoc]
        _ = r.rejoin ((r.cut t).cuts ++ []) (r.cut t).tail ++ (r.rejoin cs₁ [] ++ c.raw) := by
            rw [hread, r.rejoin_append, Recognizer.rejoin, List.append_assoc]
        _ = t ++ (r.rejoin cs₁ [] ++ c.raw) := by rw [List.append_nil, hwhole]
    have hsame : Mode.through .text (((r.cut t).cuts ++ cs₁').map Cut.marker) =
        Mode.through .text (cs₁.map Cut.marker) := by
      rw [List.map_append, Mode.through_append, hthrough, hmarkers]
      rfl
    rw [Slicer.slice, hcut, hrefusal hsame hmarker Iff.rfl, hbefore]

end Parts

/-- Behind a part that is sliced and after which the detector has nothing in hand, a
template goes on as by itself. Both parts together are sliced exactly when the second
one is. The slices are those of the parts, with the last text of the first and the
first text of the second as one, whose payload is their payloads one after the other;
only of a line end across the seam the carriage return is dropped. If the second part
is refused, both together are, for the same reason and at the same marker. -/
theorem slice_append {ms : MarkerSet} {r : Recognizer} (h : Recognizer.build ms = .ok r)
    (width : Nat) {t : Text} {ss : List Slice} (hss : Slicer.slice ⟨r, width⟩ t = .ok ss)
    (ht : r.AtRest t) (u : Text) :
    ((∃ whole, Slicer.slice ⟨r, width⟩ (t ++ u) = .ok whole) ↔
      ∃ ss', Slicer.slice ⟨r, width⟩ u = .ok ss') ∧
    (∀ ss', Slicer.slice ⟨r, width⟩ u = .ok ss' →
      ∃ a b p q joined front back,
        (r.cut t).tail = a ∧ (r.cut u).head = b ∧
        Slice.ofText a = .text p ∧ Slice.ofText b = .text q ∧ Slice.ofText (a ++ b) = .text joined ∧
        (a.getLast? = some '\r' ∧ b.head? = some '\n' →
          ∃ p', p = p' ++ ['\r'] ∧ joined = p' ++ q) ∧
        (¬ (a.getLast? = some '\r' ∧ b.head? = some '\n') → joined = p ++ q) ∧
        ss = front ++ [.text p] ∧ ss' = .text q :: back ∧
        Slicer.slice ⟨r, width⟩ (t ++ u) = .ok (front ++ .text joined :: back)) ∧
    (∀ e, Slicer.slice ⟨r, width⟩ u = .error e →
      ∃ kind m before behind, (kind = SliceError.unexpected ∨ kind = SliceError.unclosed) ∧
        u = before ++ ms.word m ++ behind ∧
        e = kind (.around width before (ms.word m) behind) ∧
        Slicer.slice ⟨r, width⟩ (t ++ u) =
          .error (kind (.around width (t ++ before) (ms.word m) behind))) := by
  obtain ⟨rfl, hr⟩ := Recognizer.build_faithful h
  refine ⟨⟨?_, ?_⟩, ?_, ?_⟩
  · rintro ⟨whole, hwhole⟩
    cases hslice : Slicer.slice ⟨r, width⟩ u with
    | ok ss' => exact ⟨ss', rfl⟩
    | error e =>
      obtain ⟨_, _, _, _, -, -, -, herror⟩ := slice_append_of_error hr ht hss hslice
      rw [hwhole] at herror
      cases herror
  · rintro ⟨ss', hss'⟩
    obtain ⟨front, back, -, -, hjoined⟩ := slice_append_of_ok hr ht hss hss'
    exact ⟨_, hjoined⟩
  · intro ss' hss'
    obtain ⟨p, q, joined, hp, hq, hjoined, hseam, hplain⟩ :=
      Slice.exists_payload_append (r.cut t).tail (r.cut u).head
    obtain ⟨front, back, hfront, hback, hslice⟩ := slice_append_of_ok hr ht hss hss'
    rw [hp] at hfront
    rw [hq] at hback
    rw [hjoined] at hslice
    exact ⟨_, _, p, q, joined, front, back, rfl, rfl, hp, hq, hjoined, hseam, hplain, hfront,
      hback, hslice⟩
  · intro e he
    exact slice_append_of_error hr ht hss he

/-- The part `[!x!]a` CR, with a line end across the seam: in front of LF `b[>y<]` the
carriage return is dropped, and in front of LF `!]` the marker is unexpected. -/
theorem slice_append_across_line_end :
    ∃ r, Recognizer.build .standard = .ok r ∧ r.AtRest ['[', '!', 'x', '!', ']', 'a', '\r'] ∧
      Slicer.slice ⟨r, 3⟩ ['[', '!', 'x', '!', ']', 'a', '\r'] =
        .ok [.text [], .code ['x'], .text ['a', '\r']] ∧
      Slicer.slice ⟨r, 3⟩ (['[', '!', 'x', '!', ']', 'a', '\r'] ++
        ['\n', 'b', '[', '>', 'y', '<', ']']) =
          .ok [.text [], .code ['x'], .text ['a', '\\', 'n', 'b'], .output ['y'], .text []] ∧
      Slicer.slice ⟨r, 3⟩ (['[', '!', 'x', '!', ']', 'a', '\r'] ++ ['\n', '!', ']']) =
        .error (.unexpected ⟨['a', '\r', '\n'], ['!', ']'], []⟩) := by
  obtain ⟨r, hr, hrest, htail, hhead, hfirst, hsecond, hfailed⟩ :
      ∃ r, Recognizer.build .standard = .ok r ∧
        r.AtRest ['[', '!', 'x', '!', ']', 'a', '\r'] ∧
        (r.cut ['[', '!', 'x', '!', ']', 'a', '\r']).tail = ['a', '\r'] ∧
        (r.cut ['\n', 'b', '[', '>', 'y', '<', ']']).head = ['\n', 'b'] ∧
        Slicer.slice ⟨r, 3⟩ ['[', '!', 'x', '!', ']', 'a', '\r'] =
          .ok [.text [], .code ['x'], .text ['a', '\r']] ∧
        Slicer.slice ⟨r, 3⟩ ['\n', 'b', '[', '>', 'y', '<', ']'] =
          .ok [.text ['\\', 'n', 'b'], .output ['y'], .text []] ∧
        Slicer.slice ⟨r, 3⟩ ['\n', '!', ']'] = .error (.unexpected ⟨['\n'], ['!', ']'], []⟩) :=
    ⟨_, rfl, .inl (by decide), by decide, by decide, by decide, by decide, by decide⟩
  refine ⟨r, hr, hrest, hfirst, ?_, ?_⟩
  · obtain ⟨-, hok, -⟩ := slice_append hr 3 hfirst hrest ['\n', 'b', '[', '>', 'y', '<', ']']
    obtain ⟨a, b, p, q, joined, front, back, rfl, rfl, -, -, hjoined, -, -, hss, hss', hwhole⟩ :=
      hok _ hsecond
    rw [htail, hhead] at hjoined
    cases hjoined
    cases hss'
    have hfirsts : [Slice.text [], .code ['x']] ++ [.text ['a', '\r']] = front ++ [.text p] := hss
    rw [hwhole, ← List.append_inj_left' hfirsts rfl]
    rfl
  · obtain ⟨-, -, herror⟩ := slice_append hr 3 hfirst hrest ['\n', '!', ']']
    obtain ⟨kind, m, before, behind, hkind, hu, he, hwhole⟩ := herror _ hfailed
    obtain rfl : kind = .unexpected := by
      rcases hkind with rfl | rfl
      · rfl
      · cases he
    injection he with hcontext
    injection hcontext with hlead hword htrail
    rw [← hword] at hu hwhole
    obtain rfl : behind = [] := by
      cases behind with
      | nil => rfl
      | cons d behind => cases htrail
    have hsplit : ['\n'] ++ ['!', ']'] = before ++ ['!', ']'] := by rwa [List.append_nil] at hu
    obtain rfl := List.append_inj_left' hsplit rfl
    exact hwhole

end ScriptedTemplate
