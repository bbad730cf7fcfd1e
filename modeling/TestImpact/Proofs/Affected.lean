import Mathlib.Data.Set.Image
import Mathlib.Logic.Relation

/-!
What a change affects, stated without a search: the elements above a changed one that something
calls. A map between two relations carries the affected elements along, and no change masks what
another one affects.
-/
namespace TestImpact
open Relation

variable {α β : Type} {r : α → α → Prop} {r' : β → β → Prop} {changed : Set α}

/-- Zero or more calls above a changed element that has a caller; `r` relates each element to
its callers. -/
def Affected (r : α → α → Prop) (changed : Set α) (n : α) : Prop :=
  ∃ c ∈ changed, (∃ caller, r c caller) ∧ ReflTransGen r c n

/-- Some path of `k` calls leads from `a` up to `n`. -/
inductive Above (r : α → α → Prop) (a : α) : Nat → α → Prop
  | here : Above r a 0 a
  | call {k : Nat} {m n : α} : Above r a k m → r m n → Above r a (k + 1) n

theorem Above.mono {r' : α → α → Prop} (hr : ∀ a b, r a b → r' a b) {a n : α} {k : Nat}
    (h : Above r a k n) : Above r' a k n := by
  induction h with
  | here => exact .here
  | call _ step ih => exact ih.call (hr _ _ step)

/-- The first call of a path instead of its last one. -/
theorem above_succ_iff {a n : α} {k : Nat} :
    Above r a (k + 1) n ↔ ∃ b, r a b ∧ Above r b k n := by
  constructor
  · intro h
    induction k generalizing n with
    | zero =>
      obtain _ | ⟨start, step⟩ := h
      cases start
      exact ⟨n, step, .here⟩
    | succ k ih =>
      obtain _ | ⟨path, step⟩ := h
      obtain ⟨b, first, path⟩ := ih path
      exact ⟨b, first, path.call step⟩
  · rintro ⟨b, first, path⟩
    induction path with
    | here => exact Above.here.call first
    | call _ step ih => exact ih.call step

theorem reflTransGen_iff_above {a n : α} : ReflTransGen r a n ↔ ∃ k, Above r a k n := by
  constructor
  · intro path
    induction path with
    | refl => exact ⟨0, .here⟩
    | tail _ step ih =>
      obtain ⟨k, path⟩ := ih
      exact ⟨k + 1, path.call step⟩
  · rintro ⟨k, path⟩
    induction path with
    | here => exact .refl
    | call _ step ih => exact ih.tail step

/-- The numbers of calls by which an element lies above a changed one that has a caller. -/
def heights (r : α → α → Prop) (changed : Set α) (n : α) : Set Nat :=
  {k | ∃ c ∈ changed, (∃ caller, r c caller) ∧ Above r c k n}

theorem affected_iff_nonempty_heights {n : α} :
    Affected r changed n ↔ (heights r changed n).Nonempty := by
  constructor
  · rintro ⟨c, hc, hcall, path⟩
    obtain ⟨k, path⟩ := reflTransGen_iff_above.mp path
    exact ⟨k, c, hc, hcall, path⟩
  · rintro ⟨k, c, hc, hcall, path⟩
    exact ⟨c, hc, hcall, reflTransGen_iff_above.mpr ⟨k, path⟩⟩

/-- No element is affected that takes part in no call. -/
theorem Affected.endpoint {n : α} (h : Affected r changed n) : (∃ m, r n m) ∨ ∃ m, r m n := by
  obtain ⟨c, -, hc, path⟩ := h
  rcases ReflTransGen.cases_tail path with rfl | ⟨m, -, hm⟩
  · exact .inl hc
  · exact .inr ⟨m, hm⟩

/-- A map that keeps calls and changes keeps what is affected. -/
theorem Affected.map {f : α → β} {changed' : Set β} (hr : ∀ a b, r a b → r' (f a) (f b))
    (hs : ∀ a ∈ changed, f a ∈ changed') {n : α} (h : Affected r changed n) :
    Affected r' changed' (f n) := by
  obtain ⟨c, hc, ⟨caller, hcall⟩, path⟩ := h
  exact ⟨f c, hs c hc, ⟨f caller, hr c caller hcall⟩, ReflTransGen.lift f hr _ _ path⟩

/-- More calls and more changes affect no less. -/
theorem Affected.mono {r' : α → α → Prop} {changed' : Set α} (hr : ∀ a b, r a b → r' a b)
    (hs : changed ⊆ changed') {n : α} (h : Affected r changed n) : Affected r' changed' n :=
  h.map (f := id) hr hs

theorem heights_or {p q : α → Prop} {n : α} :
    heights r {c | p c ∨ q c} n = heights r {c | p c} n ∪ heights r {c | q c} n := by
  ext k
  simp only [heights, Set.mem_union, Set.mem_ofPred_eq, or_and_right, exists_or]

/-- Changes affect together what each of them affects. -/
theorem affected_or {p q : α → Prop} {n : α} :
    Affected r {c | p c ∨ q c} n ↔ Affected r {c | p c} n ∨ Affected r {c | q c} n := by
  simp only [Affected, Set.mem_ofPred_eq, or_and_right, exists_or]

/-- What the affected elements affect is affected already, and nothing is lost. -/
theorem affected_affected {n : α} :
    Affected r {c | Affected r changed c} n ↔ Affected r changed n := by
  constructor
  · rintro ⟨m, ⟨c, hc, hcall, path⟩, -, path'⟩
    exact ⟨c, hc, hcall, path.trans path'⟩
  · rintro ⟨c, hc, hcall, path⟩
    exact ⟨c, ⟨c, hc, hcall, .refl⟩, hcall, path⟩

/-- An affected element without a caller is called by an affected one. -/
theorem Affected.exists_callee {n : α} (h : Affected r changed n) (hn : ¬ ∃ m, r n m) :
    ∃ m, Affected r changed m ∧ r m n := by
  obtain ⟨c, hc, hcall, path⟩ := h
  rcases ReflTransGen.cases_tail path with rfl | ⟨m, path, step⟩
  · exact absurd hcall hn
  · exact ⟨m, ⟨c, hc, hcall, path⟩, step⟩

theorem zero_mem_heights_iff {n : α} : 0 ∈ heights r changed n ↔ n ∈ changed ∧ ∃ m, r n m := by
  constructor
  · rintro ⟨c, hc, hcall, ⟨⟩⟩
    exact ⟨hc, hcall⟩
  · rintro ⟨hn, hcall⟩
    exact ⟨n, hn, hcall, .here⟩

/-- A path in the image of a relation under an injective map is the image of a path. -/
theorem reflTransGen_map_iff {f : α → β} (hf : Function.Injective f) {a : α} {n : β} :
    ReflTransGen (Relation.Map r f f) (f a) n ↔ ∃ b, ReflTransGen r a b ∧ f b = n := by
  constructor
  · intro path
    induction path with
    | refl => exact ⟨a, .refl, rfl⟩
    | tail _ step ih =>
      obtain ⟨b, hab, rfl⟩ := ih
      obtain ⟨b', c, hbc, hb, rfl⟩ := step
      obtain rfl := hf hb
      exact ⟨c, hab.tail hbc, rfl⟩
  · rintro ⟨b, path, rfl⟩
    exact ReflTransGen.lift f (fun x y h => ⟨x, y, h, rfl, rfl⟩) _ _ path

/-- Under an injective map, what the image of a relation affects is the image of what the
relation affects. -/
theorem affected_map_iff {f : α → β} (hf : Function.Injective f) {changed' : Set β} {n : β} :
    Affected (Relation.Map r f f) changed' n ↔
      ∃ a, f a = n ∧ Affected r {c | f c ∈ changed'} a := by
  constructor
  · rintro ⟨_, hc, ⟨_, c, caller, hcall, rfl, -⟩, path⟩
    obtain ⟨a, hca, rfl⟩ := (reflTransGen_map_iff hf).mp path
    exact ⟨a, rfl, c, hc, ⟨caller, hcall⟩, hca⟩
  · rintro ⟨a, rfl, h⟩
    apply h.map
    · exact fun x y hxy => ⟨x, y, hxy, rfl, rfl⟩
    · exact fun _ hc => hc

/-! ### One call more -/

section WithCall
variable {a b c n : α}

/-- The calls of a relation, and one of `a` by `b`. -/
def withCall (r : α → α → Prop) (a b callee caller : α) : Prop :=
  r callee caller ∨ callee = a ∧ caller = b

theorem le_withCall : r ≤ withCall r a b := fun _ _ => Or.inl

/-- A path that takes the added call comes to its callee without it, and leaves its caller for the
last time without it. -/
theorem reflTransGen_withCall_iff : ReflTransGen (withCall r a b) c n ↔
    ReflTransGen r c n ∨ ReflTransGen r c a ∧ ReflTransGen r b n := by
  constructor
  · intro path
    induction path with
    | refl => exact .inl .refl
    | tail _ step ih =>
      rcases step with step | ⟨rfl, rfl⟩
      · rcases ih with path | ⟨below, above⟩
        · exact .inl (path.tail step)
        · exact .inr ⟨below, above.tail step⟩
      · exact .inr ⟨ih.elim id And.left, .refl⟩
  · have hold := ReflTransGen.mono (le_withCall (r := r) (a := a) (b := b))
    rintro (path | ⟨below, above⟩)
    · exact hold _ _ path
    · exact ((hold _ _ below).tail (.inr ⟨rfl, rfl⟩)).trans (hold _ _ above)

/-- A call of what is neither changed nor affected makes no new path from a change. -/
theorem heights_withCall (hchanged : a ∉ changed) (haffected : ¬ Affected r changed a) :
    heights (withCall r a b) changed n = heights r changed n := by
  ext k
  constructor
  · rintro ⟨s, hs, ⟨caller, hnew⟩, path⟩
    have hcall : r s caller := hnew.resolve_right fun he => hchanged (he.1 ▸ hs)
    refine ⟨s, hs, ⟨caller, hcall⟩, ?_⟩
    induction path with
    | here => exact .here
    | call _ step ih =>
      rcases step with step | ⟨rfl, rfl⟩
      · exact ih.call step
      · exact absurd ⟨s, hs, ⟨caller, hcall⟩, reflTransGen_iff_above.mpr ⟨_, ih⟩⟩ haffected
  · rintro ⟨s, hs, ⟨caller, hcall⟩, path⟩
    exact ⟨s, hs, ⟨caller, .inl hcall⟩, path.mono le_withCall⟩

/-- A call of what is changed or affected adds its two ends, and what lies above its caller. -/
theorem affected_withCall_iff (h : Affected r changed a ∨ a ∈ changed) :
    Affected (withCall r a b) changed n ↔
      Affected r changed n ∨ (n = a ∨ n = b) ∨ Affected r {m | m = b} n := by
  constructor
  · rintro ⟨s, hs, ⟨caller, hcall⟩, path⟩
    rcases reflTransGen_withCall_iff.mp path with path | ⟨-, above⟩
    · rcases ReflTransGen.cases_head path with rfl | ⟨m, step, -⟩
      · rcases hcall with hcall | ⟨rfl, -⟩
        · exact .inl ⟨s, hs, ⟨caller, hcall⟩, .refl⟩
        · exact .inr (.inl (.inl rfl))
      · exact .inl ⟨s, hs, ⟨m, step⟩, path⟩
    · rcases ReflTransGen.cases_head above with rfl | ⟨m, step, -⟩
      · exact .inr (.inl (.inr rfl))
      · exact .inr (.inr ⟨b, rfl, ⟨m, step⟩, above⟩)
  · have hold : ReflTransGen r ≤ ReflTransGen (withCall r a b) := ReflTransGen.mono le_withCall
    have hcallee : Affected (withCall r a b) changed a := by
      rcases h with h | h
      · exact h.mono le_withCall le_rfl
      · exact ⟨a, h, ⟨b, .inr ⟨rfl, rfl⟩⟩, .refl⟩
    obtain ⟨s, hs, hcall, path⟩ := hcallee
    have hcaller : ReflTransGen (withCall r a b) s b := path.tail (.inr ⟨rfl, rfl⟩)
    rintro (hn | (rfl | rfl) | ⟨m, rfl, -, above⟩)
    · exact hn.mono le_withCall le_rfl
    · exact ⟨s, hs, hcall, path⟩
    · exact ⟨s, hs, hcall, hcaller⟩
    · exact ⟨s, hs, hcall, hcaller.trans (hold _ _ above)⟩

end WithCall

end TestImpact
