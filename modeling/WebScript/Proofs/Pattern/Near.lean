import WebScript.Pattern.Reading

namespace WebScript.Pattern

namespace Width

def Sound (w : Width) : Prop :=
  ∀ m, w.most = some m → w.least ≤ m

def Loose (w : Width) : Prop :=
  ∀ m, w.most = some m → w.least < m

/-- Widths that are equal, or else both loose; the latter only where characters have been added. -/
structure Near (n : Nat) (w w' : Width) : Prop where
  sound : w.Sound
  sound' : w'.Sound
  same : w' = w ∨ n ≠ 0 ∧ w.Loose ∧ w'.Loose

variable {n m : Nat} {w w' v v' : Width} {least : Nat} {most : Option Nat}

theorem sound_exactly (m : Nat) : (exactly m).Sound := by
  rintro _ ⟨⟩
  exact Nat.le_refl _

theorem Near.refl (h : w.Sound) : Near n w w :=
  ⟨h, h, .inl rfl⟩

theorem Near.mono (h : Near n w w') (more : n ≤ m) : Near m w w' := by
  refine ⟨h.sound, h.sound', h.same.imp_right fun loose => ⟨?_, loose.2⟩⟩
  have positive := loose.1
  omega

theorem Near.eq (h : Near 0 w w') : w' = w :=
  h.same.resolve_right fun loose => loose.1 rfl

theorem most_add_eq_some : (w.add v).most = some m ↔
    ∃ a b, w.most = some a ∧ v.most = some b ∧ a + b = m := by
  simp [add, Option.bind_eq_some_iff]

theorem most_either_eq_some : (w.either v).most = some m ↔
    ∃ a b, w.most = some a ∧ v.most = some b ∧ max a b = m := by
  simp [either, Option.bind_eq_some_iff]

theorem Sound.add (h : w.Sound) (h' : v.Sound) : (w.add v).Sound := by
  intro m hm
  obtain ⟨a, b, ha, hb, rfl⟩ := most_add_eq_some.1 hm
  exact Nat.add_le_add (h a ha) (h' b hb)

theorem Sound.either (h : w.Sound) : (w.either v).Sound := by
  intro m hm
  obtain ⟨a, b, ha, hb, rfl⟩ := most_either_eq_some.1 hm
  have := h a ha
  simp only [Width.either]
  omega

theorem Loose.add_left (h : w.Loose) (h' : v.Sound) : (w.add v).Loose := by
  intro m hm
  obtain ⟨a, b, ha, hb, rfl⟩ := most_add_eq_some.1 hm
  exact Nat.add_lt_add_of_lt_of_le (h a ha) (h' b hb)

theorem Loose.add_right (h : w.Sound) (h' : v.Loose) : (w.add v).Loose := by
  intro m hm
  obtain ⟨a, b, ha, hb, rfl⟩ := most_add_eq_some.1 hm
  exact Nat.add_lt_add_of_le_of_lt (h a ha) (h' b hb)

theorem Loose.either_left (h : w.Loose) : (w.either v).Loose := by
  intro m hm
  obtain ⟨a, b, ha, hb, rfl⟩ := most_either_eq_some.1 hm
  have := h a ha
  simp only [either]
  omega

theorem Loose.either_right (h : v.Loose) : (w.either v).Loose := by
  intro m hm
  obtain ⟨a, b, ha, hb, rfl⟩ := most_either_eq_some.1 hm
  have := h b hb
  simp only [either]
  omega

theorem Near.add (h : Near n w w') (h' : Near n v v') : Near n (w.add v) (w'.add v') := by
  refine ⟨h.sound.add h'.sound, h.sound'.add h'.sound', ?_⟩
  rcases h.same with rfl | ⟨positive, loose, loose'⟩
  · rcases h'.same with rfl | ⟨positive, loose, loose'⟩
    · exact .inl rfl
    · exact .inr ⟨positive, loose.add_right h.sound, loose'.add_right h.sound⟩
  · exact .inr ⟨positive, loose.add_left h'.sound, loose'.add_left h'.sound'⟩

theorem Near.either (h : Near n w w') (h' : Near n v v') : Near n (w.either v) (w'.either v') := by
  refine ⟨h.sound.either, h.sound'.either, ?_⟩
  rcases h.same with rfl | ⟨positive, loose, loose'⟩
  · rcases h'.same with rfl | ⟨positive, loose, loose'⟩
    · exact .inl rfl
    · exact .inr ⟨positive, loose.either_right, loose'.either_right⟩
  · exact .inr ⟨positive, loose.either_left, loose'.either_left⟩

/-- How often something is repeated: at least, and at most if that is limited. -/
def Bounds (least : Nat) (most : Option Nat) : Prop :=
  ∀ m, most = some m → least ≤ m

theorem most_times_eq_some : (w.times least most).most = some m ↔
    (most = some 0 ∧ m = 0) ∨ (w.most = some 0 ∧ m = 0) ∨
      ∃ a b, most = some a ∧ w.most = some b ∧ a * b = m := by
  simp only [times]
  split <;> grind

theorem Sound.times (h : w.Sound) (bounds : Bounds least most) : (w.times least most).Sound := by
  intro m hm
  rcases most_times_eq_some.1 hm with ⟨none, rfl⟩ | ⟨none, rfl⟩ | ⟨a, b, ha, hb, rfl⟩
  · have : least = 0 := Nat.le_zero.1 (bounds 0 none)
    simp [Width.times, this]
  · have : w.least = 0 := Nat.le_zero.1 (h 0 none)
    simp [Width.times, this]
  · exact Nat.mul_le_mul (bounds a ha) (h b hb)

theorem Loose.times (h : w.Loose) (bounds : Bounds least most) (some : most ≠ some 0) :
    (w.times least most).Loose := by
  intro m hm
  rcases most_times_eq_some.1 hm with ⟨none, _⟩ | ⟨none, _⟩ | ⟨a, b, ha, hb, rfl⟩
  · exact absurd none some
  · exact absurd (h 0 none) (Nat.not_lt_zero _)
  · have positive : 0 < a := Nat.pos_of_ne_zero fun zero => some (by rw [ha, zero])
    calc least * w.least
      _ ≤ a * w.least := Nat.mul_le_mul_right _ (bounds a ha)
      _ < a * b := Nat.mul_lt_mul_of_pos_left (h b hb) positive

theorem times_zero (bounds : Bounds least (some 0)) : w.times least (some 0) = exactly 0 := by
  have : least = 0 := Nat.le_zero.1 (bounds 0 rfl)
  simp [times, exactly, this]

theorem Near.times (h : Near n w w') (bounds : Bounds least most) :
    Near n (w.times least most) (w'.times least most) := by
  refine ⟨h.sound.times bounds, h.sound'.times bounds, ?_⟩
  rcases h.same with rfl | ⟨positive, loose, loose'⟩
  · exact .inl rfl
  · by_cases none : most = some 0
    · subst none
      exact .inl (by rw [times_zero bounds, times_zero bounds])
    · exact .inr ⟨positive, loose.times bounds none, loose'.times bounds none⟩

theorem Loose.fixed? (h : w.Loose) : w.fixed? = none := by
  rw [Width.fixed?, Option.filter_eq_none_iff]
  intro m hm
  have less := h m hm
  simp only [Bool.and_eq_true, decide_eq_true_eq]
  omega

theorem Near.isNone_fixed? (h : Near n w w') : w'.fixed?.isNone = w.fixed?.isNone := by
  rcases h.same with rfl | ⟨_, loose, loose'⟩
  · rfl
  · rw [loose.fixed?, loose'.fixed?]

end Width

/-- How many members the sets in a pattern have. -/
def Node.weight : Node → Nat
  | .empty => 0
  | .one set => set.members.length
  | .anchor _ => 0
  | .andThen p q => p.weight + q.weight
  | .orElse p q => p.weight + q.weight
  | .repeated _ _ _ p => p.weight
  | .capture _ p => p.weight
  | .atomic p => p.weight
  | .look _ _ p => p.weight
  | .same _ _ => 0
  | .given _ p q => p.weight + q.weight

/-- Patterns with their widths, the second so much heavier than the first; they are the same if
nothing at all has been counted. -/
structure Near (n k : Nat) (x x' : Node × Width) : Prop where
  weight : x'.1.weight = x.1.weight + k
  width : x.2.Near n x'.2
  same : n = 0 → x' = x

namespace Reading

variable {n m i j k : Nat} {p p' : Part} {ps ps' : List Part} {x x' : Node × Width}

theorem weight_sequence (ps : List Node) (p : Node) :
    (Node.sequence (ps ++ [p])).weight = p.weight + (Node.sequence ps).weight := by
  induction ps with
  | nil => rfl
  | cons q ps ih =>
    change q.weight + (Node.sequence (ps ++ [p])).weight =
      p.weight + (q.weight + (Node.sequence ps).weight)
    omega

theorem weight_whole (p : Part) (ps : List Part) :
    (whole (p :: ps)).1.weight = p.node.weight + (whole ps).1.weight := by
  rw [whole, List.reverse_cons, List.map_append, List.map_singleton, weight_sequence, whole]

structure Part.Near (n k : Nat) (p p' : Part) : Prop where
  near : Pattern.Near n k (p.node, p.width) (p'.node, p'.width)
  quantifiable : p'.quantifiable = p.quantifiable

/-- Parts that have been read, in reverse order, taken together. -/
structure NearWhole (n k : Nat) (ps ps' : List Part) : Prop where
  near : Near n k (whole ps) (whole ps')
  same : n = 0 → ps' = ps

/-- Parts that have been read, in reverse order. The last of them correspond, since they may still
be repeated. -/
inductive NearParts (n : Nat) : Nat → List Part → List Part → Prop
  | none : NearParts n 0 [] []
  | more {i j : Nat} {p p' : Part} {ps ps' : List Part} (last : Part.Near n i p p')
      (before : NearWhole n j ps ps') : NearParts n (i + j) (p :: ps) (p' :: ps')

theorem Part.Near.refl (p : Part) (h : p.width.Sound) : Part.Near n 0 p p :=
  ⟨⟨rfl, .refl h, fun _ => rfl⟩, rfl⟩

theorem Part.Near.eq (h : Part.Near 0 k p p') : p' = p := by
  have same := h.near.same rfl
  have quantifiable := h.quantifiable
  cases p
  cases p'
  cases same
  cases quantifiable
  rfl

theorem NearWhole.cons (last : Part.Near n i p p') (before : NearWhole n j ps ps') :
    NearWhole n (i + j) (p :: ps) (p' :: ps') := by
  refine ⟨⟨?_, before.near.width.add last.near.width, ?_⟩, ?_⟩
  · have heavier : p'.node.weight = p.node.weight + i := last.near.weight
    have rest := before.near.weight
    rw [weight_whole, weight_whole]
    omega
  · rintro rfl
    rw [last.eq, before.same rfl]
  · rintro rfl
    rw [last.eq, before.same rfl]

theorem NearParts.whole (h : NearParts n k ps ps') : NearWhole n k ps ps' := by
  cases h with
  | none => exact ⟨⟨rfl, .refl (Width.sound_exactly 0), fun _ => rfl⟩, fun _ => rfl⟩
  | more last before => exact before.cons last

theorem NearParts.add (last : Part.Near n i p p') (before : NearParts n j ps ps') :
    NearParts n (i + j) (p :: ps) (p' :: ps') :=
  .more last before.whole

theorem NearParts.isEmpty_eq (h : NearParts n k ps ps') : ps'.isEmpty = ps.isEmpty := by
  cases h <;> rfl

theorem near_mono (h : Near n k x x') (more : n ≤ m) : Near m k x x' :=
  ⟨h.weight, h.width.mono more, fun zero => h.same (by omega)⟩

theorem NearParts.mono (h : NearParts n k ps ps') (more : n ≤ m) : NearParts m k ps ps' := by
  cases h with
  | none => exact .none
  | more last before =>
    exact .more ⟨near_mono last.near more, last.quantifiable⟩
      ⟨near_mono before.near more, fun zero => before.same (by omega)⟩

end Reading
end WebScript.Pattern
