import MailScreen.Pattern.Compile

/-!
# What a match leaves of a text

A part of a pattern is matched with all that follows it given as a continuation, so what the part
does cannot be said of it alone. But where what follows looks only at the text after a place
(`Continue.Accepts`), all that counts of the part is which texts it may leave of a text
(`Node.Leaves`), and that is put together as the pattern is: one part after another, a part that may
be missing, an anchor at the end. A pattern occurs in a text if it leaves anything of what is left
of the text somewhere (`Node.Leaves.occursIn_iff`).
-/
namespace MailScreen.Pattern

/-- What follows succeeds just at the places before the texts of a kind. -/
def Continue.Accepts (k : Continue) (Good : Text → Prop) : Prop :=
  ∀ p : Place, (k p).isSome = true ↔ Good p.rest

namespace Node

/-- Of a text `t`, a part leaves the texts that are left of `t` in a relation, whatever follows. -/
def Leaves (node : Node) (Left : Text → Text → Prop) : Prop :=
  ∀ (k : Continue) (Good : Text → Prop), k.Accepts Good →
    ∀ p : Place, (node.matcher p k).isSome = true ↔ ∃ after, Left p.rest after ∧ Good after

variable {a b node : Node} {A B Left Left' : Text → Text → Prop}

theorem Leaves.congr (h : node.Leaves Left) (hl : ∀ t after, Left t after ↔ Left' t after) :
    node.Leaves Left' := by
  intro k Good hk p
  rw [h k Good hk p]
  simp only [hl]

/-- A character leaves what comes after it. -/
theorem leaves_char (folding : Folding) (code : Nat) :
    (char folding code false).Leaves fun t after =>
      ∃ c, sameChar folding code c.toNat = true ∧ t = c :: after := by
  intro k Good hk p
  obtain ⟨offset, before, rest, starts, ends⟩ := p
  cases rest with
  | nil => simp [matcher, Place.step?]
  | cons c rest =>
    simp only [matcher, Place.step?]
    cases hs : sameChar folding code c.toNat with
    | false =>
      simp only [bne_self_eq_false, Bool.false_eq_true, if_false, Option.bind_none,
        Option.isSome_none, false_iff]
      rintro ⟨after, ⟨d, hd, he⟩, -⟩
      obtain ⟨rfl, rfl⟩ := List.cons.inj he
      rw [hs] at hd
      cases hd
    | true =>
      simp only [Bool.true_bne, Bool.not_false, if_true, Option.bind_some]
      rw [hk]
      constructor
      · intro hg
        exact ⟨rest, ⟨c, hs, rfl⟩, hg⟩
      · rintro ⟨after, ⟨d, -, he⟩, hg⟩
        obtain ⟨rfl, rfl⟩ := List.cons.inj he
        exact hg

/-- One part leaves what the next one is matched against. -/
theorem Leaves.cat (ha : a.Leaves A) (hb : b.Leaves B) :
    (cat a b).Leaves fun t after => ∃ mid, A t mid ∧ B mid after := by
  intro k Good hk p
  have hrest : Continue.Accepts (fun q => b.matcher q k)
      fun t => ∃ after, B t after ∧ Good after := hb k Good hk
  show ((a.matcher p fun q => b.matcher q k)).isSome = true ↔ _
  rw [ha _ _ hrest p]
  constructor
  · rintro ⟨mid, hm, after, hb, hg⟩
    exact ⟨after, ⟨mid, hm, hb⟩, hg⟩
  · rintro ⟨after, ⟨mid, hm, hb⟩, hg⟩
    exact ⟨mid, hm, after, hb, hg⟩

/-- A part that may be missing leaves what it leaves, or all. -/
theorem Leaves.optional (ha : a.Leaves A) :
    (loop .greedy 0 (some 1) a).Leaves fun t after => A t after ∨ t = after := by
  intro k Good hk p
  -- after one round there may be no more, whatever the place
  have hround : (matcher (loop .greedy 0 (some 1) a)) p k = (a.matcher p k <|> k p) := by
    show (if mayRepeat (some 1) none p then
      (a.matcher p fun q => greedily a.matcher _ (some 0) _ q k) <|> k p else k p) = _
    have hmay : mayRepeat (some 1) none p = true := rfl
    rw [if_pos hmay]
    rfl
  rw [hround, Option.orElse_eq_orElse, Option.orElse_eq_or, Option.isSome_or,
    Bool.or_eq_true, ha k Good hk p, hk p]
  constructor
  · rintro (⟨after, hl, hg⟩ | hg)
    · exact ⟨after, .inl hl, hg⟩
    · exact ⟨_, .inr rfl, hg⟩
  · rintro ⟨after, hl | rfl, hg⟩
    · exact .inl ⟨after, hl, hg⟩
    · exact .inr hg

/-- The anchor at the end of a text leaves what is there: nothing, or one line feed. -/
theorem leaves_lastLineEnd :
    (anchor .lastLineEnd).Leaves fun t after => t = after ∧ (after = [] ∨ after = ['\n']) := by
  intro k Good hk p
  have hh : p.holds .lastLineEnd = true ↔ p.rest = [] ∨ p.rest = ['\n'] := by
    simp [Place.holds]
  show (if p.holds .lastLineEnd then k p else none).isSome = true ↔ _
  split
  · rename_i h
    rw [hk]
    constructor
    · exact fun hg => ⟨_, ⟨rfl, hh.mp h⟩, hg⟩
    · rintro ⟨_, ⟨rfl, -⟩, hg⟩
      exact hg
  · rename_i h
    constructor
    · intro hn
      cases hn
    · rintro ⟨_, ⟨rfl, hr⟩, -⟩
      exact absurd (hh.mpr hr) h

/-- A pattern occurs from a place on if it leaves anything of what is left of the text somewhere. -/
theorem Leaves.occursFrom_iff (h : node.Leaves Left) (offset : Nat) (before rest : Text) :
    node.occursFrom (fun _ => true) offset before rest = true ↔
      ∃ skipped t after, rest = skipped ++ t ∧ Left t after := by
  have hsome : Continue.Accepts some fun _ => True := fun p => by simp
  induction rest generalizing offset before with
  | nil =>
    rw [occursFrom, Bool.or_false, Bool.true_and, h some _ hsome]
    constructor
    · rintro ⟨after, hl, -⟩
      exact ⟨[], [], after, rfl, hl⟩
    · rintro ⟨skipped, t, after, he, hl⟩
      obtain ⟨rfl, rfl⟩ := List.append_eq_nil_iff.mp he.symm
      exact ⟨after, hl, trivial⟩
  | cons c rest ih =>
    have hlater : node.occursFrom (fun _ => true) (offset + 1) (c :: before) rest = true ↔ _ :=
      ih (offset + 1) (c :: before)
    rw [occursFrom, Bool.true_and, Bool.or_eq_true, h some _ hsome, hlater]
    constructor
    · rintro (⟨after, hl, -⟩ | ⟨skipped, t, after, rfl, hl⟩)
      · exact ⟨[], _, after, rfl, hl⟩
      · exact ⟨c :: skipped, t, after, rfl, hl⟩
    · rintro ⟨skipped, t, after, he, hl⟩
      cases skipped with
      | nil =>
        obtain rfl : c :: rest = t := he
        exact .inl ⟨after, hl, trivial⟩
      | cons d skipped =>
        obtain ⟨rfl, rfl⟩ := List.cons.inj he
        exact .inr ⟨skipped, t, after, rfl, hl⟩

/-- **A pattern occurs in a text if it leaves anything of what is left of the text somewhere.** -/
theorem Leaves.occursIn_iff (h : node.Leaves Left) (hs : node.startSet? = none)
    (options : Options) (text : Text) :
    node.occursIn options text = true ↔ ∃ before t after, text = before ++ t ∧ Left t after := by
  have hm : node.mayStart options = fun _ => true := by
    funext next
    rw [mayStart, hs]
  rw [occursIn, hm]
  exact h.occursFrom_iff 0 [] text

end Node
end MailScreen.Pattern
