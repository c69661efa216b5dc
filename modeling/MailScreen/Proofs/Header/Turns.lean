import MailScreen.Proofs.Header.Skipping
import MailScreen.Proofs.Header.Stretch

/-!
# The turns of the reader of parameters

The reader goes over a header in turns. In one turn it skips separators and takes an item
(`Header.turnAt`), and the next turn begins at the place where that ends. **A turn that does not end
the reading goes on at a later place** (`Header.spans_of_turnAt`), so there are no more turns than
characters (`Header.Turns.length_le`).

What one turn takes, no other takes again (`Header.Turns.pairwise`). So each parameter has a
stretch of text of its own with an equals sign in it, and **there are no more parameters than
equals signs** (`Header.reads_in_turns`).
-/
namespace MailScreen.Header

/-- An item that a turn takes, and the places between which it stands. The next turn begins where it
ends. -/
structure Turn where
  /-- The item. -/
  item : Item
  /-- The place of its first character. -/
  start : Nat
  /-- The place behind it. -/
  stop : Nat
  deriving DecidableEq, Repr

namespace Turn

/-- The name and the value that a turn records, if it takes a parameter. -/
def pair? (turn : Turn) : Option (Text × Text) :=
  match turn.item with
  | .parameter name value => some (name, value)
  | _ => none

theorem pair?_eq_some_iff {turn : Turn} {name value : Text} :
    turn.pair? = some (name, value) ↔ turn.item = .parameter name value := by
  cases h : turn.item <;> simp [pair?, h]

/-- What a turn takes from a place of a text on: its item stands between its places, and these come
one after the other in the text. -/
structure Spans (turn : Turn) (text : Text) (pos : Nat) : Prop where
  pos_le : pos ≤ turn.start
  start_lt : turn.start < turn.stop
  stop_le : turn.stop ≤ text.length
  taken : takeItem (text.drop turn.start) = (turn.item, some (text.drop turn.stop))

end Turn

/-- What comes of a turn. -/
inductive TurnEnd where
  /-- The reading goes on after the turn. -/
  | goesOn (turn : Turn)
  /-- The reading ends, at the end of the text or with an item that nothing follows. -/
  | leaves (found : Option Item)
  deriving DecidableEq, Repr

/-- The turn that begins at a place of a text. -/
def turnAt (text : Text) (pos : Nat) : TurnEnd :=
  match skipSeparators (text.drop pos) with
  | [] => .leaves none
  | c :: rest =>
    match takeItem (c :: rest) with
    | (item, none) => .leaves (some item)
    | (item, some left) => .goesOn ⟨item, Text.placeOf text (c :: rest), Text.placeOf text left⟩

/-- The turns that the reader makes from one place of a text on until it has come to another. -/
inductive Turns (text : Text) : Nat → List Turn → Nat → Prop
  | nil {pos : Nat} : Turns text pos [] pos
  | cons {pos last : Nat} {turn : Turn} {turns : List Turn} :
      turnAt text pos = .goesOn turn → Turns text turn.stop turns last →
      Turns text pos (turn :: turns) last

variable {text : Text} {pos last : Nat} {turn : Turn} {turns : List Turn}

/-! ## One turn -/

/-- **A turn after which the reading goes on has come to a later place.** -/
theorem spans_of_turnAt (hp : pos ≤ text.length) (h : turnAt text pos = .goesOn turn) :
    turn.Spans text pos ∧ skipSeparators (text.drop pos) = text.drop turn.start := by
  unfold turnAt at h
  split at h
  · cases h
  · rename_i c rest hskip
    split at h
    · cases h
    · rename_i item left hitem
      obtain rfl := TurnEnd.goesOn.inj h
      have hrest : c :: rest <:+ text.drop pos := hskip ▸ skipSeparators_suffix _
      have hleft : left <:+ c :: rest := suffix_of_takeItem hitem
      have hlt : left.length < (c :: rest).length :=
        length_takeItem_lt (List.cons_ne_nil _ _)
          (fun r => hskip ▸ skipSeparators_ne_semicolon _ r) hitem
      have htext : c :: rest <:+ text := hrest.trans (List.drop_suffix ..)
      have hstart := Text.drop_placeOf htext
      have hstop := Text.drop_placeOf (hleft.trans htext)
      refine ⟨⟨Text.le_placeOf hp hrest.length_le, ?_, Text.placeOf_le_length .., ?_⟩, ?_⟩
      · have := htext.length_le
        simp only [Text.placeOf]
        omega
      · rw [hstart, hstop, hitem]
      · rw [hskip, hstart]

theorem Turn.Spans.lt (h : turn.Spans text pos) : pos < turn.stop :=
  Nat.lt_of_le_of_lt h.pos_le h.start_lt

/-- The items from a place on are that of its turn and those from the next turn on. -/
theorem items_of_goesOn (hp : pos ≤ text.length) (h : turnAt text pos = .goesOn turn) :
    items (text.drop pos) = turn.item :: items (text.drop turn.stop) := by
  obtain ⟨hspans, hskip⟩ := spans_of_turnAt hp h
  refine items_of_item hskip (fun hn => ?_) hspans.taken
  have := List.drop_eq_nil_iff.mp hn
  have := hspans.start_lt
  have := hspans.stop_le
  omega

/-- Where the reading ends, there is no item, or one whose quotation is not closed. -/
theorem items_of_leaves {found : Option Item} (h : turnAt text pos = .leaves found) :
    items (text.drop pos) = found.toList ∧ ∀ item ∈ found, ∃ name, item = .unterminated name := by
  unfold turnAt at h
  split at h
  · rename_i hskip
    obtain rfl := TurnEnd.leaves.inj h
    refine ⟨items_of_nothing hskip, fun item hi => ?_⟩
    cases hi
  · rename_i c rest hskip
    split at h
    · rename_i item hitem
      obtain rfl := TurnEnd.leaves.inj h
      refine ⟨items_of_lastItem hskip (List.cons_ne_nil _ _) hitem, fun other ho => ?_⟩
      obtain rfl := Option.some.inj ho
      exact unterminated_of_takeItem hitem
    · cases h

/-! ## All turns -/

/-- There are no more turns than characters between the places where they begin and end. -/
theorem Turns.length_le (h : Turns text pos turns last) (hp : pos ≤ text.length) :
    pos + turns.length ≤ last ∧ last ≤ text.length := by
  induction h with
  | nil => exact ⟨le_rfl, hp⟩
  | cons hturn _ ih =>
    have hspans := (spans_of_turnAt hp hturn).1
    have hlt := hspans.lt
    obtain ⟨hlast, hend⟩ := ih hspans.stop_le
    rw [List.length_cons]
    exact ⟨by omega, hend⟩

/-- Each turn takes its item behind the place where the first begins. -/
theorem Turns.spans (h : Turns text pos turns last) (hp : pos ≤ text.length) :
    ∀ turn ∈ turns, turn.Spans text pos := by
  induction h with
  | nil => simp
  | cons hturn _ ih =>
    have hspans := (spans_of_turnAt hp hturn).1
    refine List.forall_mem_cons.mpr ⟨hspans, fun later hm => ?_⟩
    have hlater := ih hspans.stop_le later hm
    exact { hlater with pos_le := hspans.lt.le.trans hlater.pos_le }

/-- **What one turn takes comes before what the next ones take.** -/
theorem Turns.pairwise (h : Turns text pos turns last) (hp : pos ≤ text.length) :
    turns.Pairwise fun earlier later => earlier.stop ≤ later.start := by
  induction h with
  | nil => exact .nil
  | cons hturn hturns ih =>
    have hle := (spans_of_turnAt hp hturn).1.stop_le
    exact .cons (fun later hm => (hturns.spans hle later hm).pos_le) (ih hle)

/-- The items from a place on are those of the turns and those from the place that they come to. -/
theorem Turns.items_eq (h : Turns text pos turns last) (hp : pos ≤ text.length) :
    items (text.drop pos) = turns.map (·.item) ++ items (text.drop last) := by
  induction h with
  | nil => rfl
  | cons hturn _ ih =>
    rw [items_of_goesOn hp hturn, ih (spans_of_turnAt hp hturn).1.stop_le]
    rfl

/-- **The turns come to an end.** -/
theorem exists_turns (text : Text) (pos : Nat) (hp : pos ≤ text.length) :
    ∃ turns last found, Turns text pos turns last ∧ turnAt text last = .leaves found := by
  cases h : turnAt text pos with
  | leaves found => exact ⟨[], pos, found, .nil, h⟩
  | goesOn turn =>
    have hspans := (spans_of_turnAt hp h).1
    have hlt := hspans.lt
    have hle := hspans.stop_le
    obtain ⟨turns, last, found, hturns, hend⟩ := exists_turns text turn.stop hle
    exact ⟨turn :: turns, last, found, .cons h hturns, hend⟩
termination_by text.length - pos

/-! ## Stretches -/

/-- A turn takes its item from the stretch of text between its places. -/
theorem Turn.Spans.drop_eq (h : turn.Spans text pos) :
    text.drop turn.start = text.extract turn.start turn.stop ++ text.drop turn.stop := by
  have hlt := h.start_lt
  have hstop : turn.stop = turn.start + (turn.stop - turn.start) := by omega
  conv_rhs => rw [hstop, ← List.drop_drop, List.extract_eq_take_drop, ← hstop]
  exact (List.take_append_drop ..).symm

/-- The stretch of text of a turn that takes a parameter. -/
theorem Turn.Spans.isStretchOf {name value : Text} (h : turn.Spans text pos)
    (hi : turn.item = .parameter name value) :
    IsStretchOf (text.extract turn.start turn.stop) name value := by
  have htaken := h.taken
  rw [hi] at htaken
  obtain ⟨s, hs, hstretch⟩ := exists_stretch htaken
  rw [h.drop_eq] at hs
  rwa [List.append_cancel_right hs]

/-- There are no more parameters than equals signs. -/
theorem Turns.length_pairs_le (h : Turns text pos turns last) (hp : pos ≤ text.length) :
    (turns.filterMap Turn.pair?).length ≤ (text.drop pos).count '=' := by
  induction h with
  | nil => exact Nat.zero_le _
  | @cons pos last turn turns hturn _ ih =>
    have hspans := (spans_of_turnAt hp hturn).1
    have ih := ih hspans.stop_le
    -- the signs in the stretch of this turn are not among those of the next ones
    have hcount : (text.extract turn.start turn.stop).count '=' + (text.drop turn.stop).count '=' ≤
        (text.drop pos).count '=' := by
      rw [← List.count_append, ← hspans.drop_eq]
      exact (List.drop_sublist_drop_left text hspans.pos_le).count_le _
    cases hpair : turn.pair? with
    | none =>
      rw [List.filterMap_cons_none hpair]
      omega
    | some pair =>
      have hsign : 0 < (text.extract turn.start turn.stop).count '=' :=
        List.count_pos_iff.mpr (hspans.isStretchOf (Turn.pair?_eq_some_iff.mp hpair)).equals_mem
      rw [List.filterMap_cons_some hpair, List.length_cons]
      omega

/-- What is recorded from a place on is recorded in the turns. -/
theorem Turns.writtenPairs_eq {found : Option Item} (h : Turns text pos turns last)
    (hp : pos ≤ text.length) (he : turnAt text last = .leaves found) :
    writtenPairs (items (text.drop pos)) = turns.filterMap Turn.pair? := by
  obtain ⟨hitems, hfound⟩ := items_of_leaves he
  have hnone : writtenPairs found.toList = [] := by
    cases found with
    | none => rfl
    | some item =>
      obtain ⟨name, rfl⟩ := hfound item rfl
      rfl
  rw [h.items_eq hp, hitems, writtenPairs, List.filterMap_append, List.filterMap_map]
  exact (congrArg _ hnone).trans (List.append_nil _)

/-- **The reader of parameters makes headway.** Each turn after which it goes on brings it to a
later place, so after no more such turns than there are characters left comes the one in which it
ends. It records each parameter from a stretch of text that no other turn takes any of, with an
equals sign in it. -/
theorem reads_in_turns (hp : pos ≤ text.length) :
    (∀ place turn, place ≤ text.length → turnAt text place = .goesOn turn →
      place < turn.stop ∧ turn.stop ≤ text.length) ∧
    (∀ turns last, Turns text pos turns last → turns.length ≤ text.length - pos) ∧
    (∃ turns last found, Turns text pos turns last ∧ turnAt text last = .leaves found ∧
      items (text.drop pos) = turns.map (·.item) ++ found.toList ∧
      writtenPairs (items (text.drop pos)) = turns.filterMap Turn.pair? ∧
      turns.Pairwise (fun earlier later => earlier.stop ≤ later.start) ∧
      ∀ turn ∈ turns, pos ≤ turn.start ∧ turn.start < turn.stop ∧ turn.stop ≤ text.length ∧
        ∀ name value, turn.pair? = some (name, value) →
          IsStretchOf (text.extract turn.start turn.stop) name value) ∧
    (writtenPairs (items (text.drop pos))).length ≤ (text.drop pos).count '=' := by
  obtain ⟨turns, last, found, hturns, hend⟩ := exists_turns text pos hp
  have hpairs := hturns.writtenPairs_eq hp hend
  refine ⟨?_, ?_, ⟨turns, last, found, hturns, hend, ?_, hpairs, hturns.pairwise hp, ?_⟩, ?_⟩
  · intro place turn hplace hturn
    have hspans := (spans_of_turnAt hplace hturn).1
    exact ⟨hspans.lt, hspans.stop_le⟩
  · intro turns last hturns
    have hlength := hturns.length_le hp
    omega
  · rw [hturns.items_eq hp, (items_of_leaves hend).1]
  · intro turn hturn
    have hspans := hturns.spans hp turn hturn
    refine ⟨hspans.pos_le, hspans.start_lt, hspans.stop_le, fun name value hpair => ?_⟩
    exact hspans.isStretchOf (Turn.pair?_eq_some_iff.mp hpair)
  · rw [hpairs]
    exact hturns.length_pairs_le hp

/-- Of six equals signs three come with a parameter: one is passed over, one stands in a quotation,
and one comes before a quotation that is not closed. -/
theorem reads_in_turns_of_marks :
    1 ≤ "x; a=b c; =; d=\"e;=\" f= ; g=\"".toList.length ∧
      ∃ turns last found, Turns "x; a=b c; =; d=\"e;=\" f= ; g=\"".toList 1 turns last ∧
        turnAt "x; a=b c; =; d=\"e;=\" f= ; g=\"".toList last = .leaves found ∧
        turns.filterMap Turn.pair? = [("a".toList, "b c".toList), ("d".toList, "e;=".toList),
          ("f".toList, [])] ∧
        turns.Pairwise fun earlier later => earlier.stop ≤ later.start := by
  have hp : 1 ≤ "x; a=b c; =; d=\"e;=\" f= ; g=\"".toList.length := by decide
  have hread : writtenPairs (items ("x; a=b c; =; d=\"e;=\" f= ; g=\"".toList.drop 1)) =
      [("a".toList, "b c".toList), ("d".toList, "e;=".toList), ("f".toList, [])] := by
    decide +kernel
  obtain ⟨-, -, ⟨turns, last, found, hturns, hend, -, hpairs, hapart, -⟩, -⟩ := reads_in_turns hp
  exact ⟨hp, turns, last, found, hturns, hend, hpairs.symm.trans hread, hapart⟩

end MailScreen.Header
