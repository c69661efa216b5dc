import MailScreen.Command.Path
import MailScreen.Proofs.Text.Join
import MailScreen.Proofs.Text.Trim

/-!
# Paths and their spellings

A path is read from a text, and what is shown of it is its spelling, which is not the text: slashes
and dots that mean nothing are left out. The spelling stands for the path all the same, since it is
read as the path again (`Path.ofText_text`). So two paths that are read from texts are spelled
differently if they are different (`Path.eq_of_text_eq`), and a table that goes by spellings does
not confuse them.
-/
namespace MailScreen.Path

/-- **A path in normal form.** -/
structure Normal (path : Path) : Prop where
  /-- It starts at nothing, or at one slash or two. -/
  root : path.root = [] ∨ path.root = ['/'] ∨ path.root = ['/', '/']
  /-- None of its parts is empty, a single dot or more than one part. -/
  parts : ∀ part ∈ path.parts, isPart part = true ∧ '/' ∉ part

/-- What is read from a text is in normal form. -/
theorem normal_ofText (t : Text) : (ofText t).Normal where
  root := by
    simp only [ofText, rootOf]
    split
    · exact .inl rfl
    · split
      · exact .inr (.inr rfl)
      · exact .inr (.inl rfl)
  parts := by
    intro part hp
    obtain ⟨hm, hp⟩ := List.mem_filter.mp hp
    exact ⟨hp, Text.notMem_of_mem_splitOn hm⟩

/-- Parts that are joined do not start with a slash. -/
theorem head?_join_parts {parts : List Text}
    (hp : ∀ part ∈ parts, isPart part = true ∧ '/' ∉ part) :
    ∀ c ∈ (List.intercalate ['/'] parts).head?, c ≠ '/' := by
  cases parts with
  | nil => exact fun _ hc => nomatch hc
  | cons part rest =>
    obtain ⟨hpart, hs⟩ := hp part (List.mem_cons_self ..)
    have hj : ∃ more, List.intercalate ['/'] (part :: rest) = part ++ more := by
      cases rest with
      | nil => exact ⟨[], by rw [List.intercalate_singleton, List.append_nil]⟩
      | cons next rest =>
        exact ⟨_, by rw [List.intercalate_cons_of_ne_nil (by simp), List.append_assoc]⟩
    obtain ⟨more, hj⟩ := hj
    rw [hj]
    cases part with
    | nil => cases hpart
    | cons d part =>
      rintro c hc rfl
      obtain rfl := Option.some.inj hc
      exact hs (List.mem_cons_self ..)

theorem splitOn_slashes_append (slashes : Nat) (t : Text) :
    List.splitOn '/' (List.replicate slashes '/' ++ t) =
      List.replicate slashes [] ++ List.splitOn '/' t := by
  induction slashes with
  | zero => rfl
  | succ slashes ih =>
    rw [List.replicate_succ, List.cons_append, List.splitOn_cons_eq_if_modifyHead,
      if_pos (beq_self_eq_true _), ih]
    rfl

/-- Slashes before parts are counted for the root and leave no part behind. -/
theorem ofText_slashes_append {parts : List Text} (hn : parts ≠ [])
    (hp : ∀ part ∈ parts, isPart part = true ∧ '/' ∉ part) (slashes : Nat) :
    ofText (List.replicate slashes '/' ++ List.intercalate ['/'] parts) =
      ⟨rootOf slashes, parts⟩ := by
  have hw : (List.replicate slashes '/' ++ List.intercalate ['/'] parts).takeWhile (· = '/') =
      List.replicate slashes '/' := by
    refine (Text.takeWhile_append_stop ?_ ?_).1
    · intro c hc
      rw [List.eq_of_mem_replicate hc]
      rfl
    · intro c hc
      simpa using head?_join_parts hp c hc
  have hs : (List.splitOn '/' (List.replicate slashes '/' ++ List.intercalate ['/'] parts)).filter
      isPart = parts := by
    rw [splitOn_slashes_append, List.splitOn_intercalate '/' (fun part hm => (hp part hm).2) hn,
      List.filter_append, List.filter_replicate_of_neg (by decide), List.nil_append,
      List.filter_eq_self]
    exact fun part hm => (hp part hm).1
  rw [ofText, hw, hs, List.length_replicate]

/-- **The spelling of a path is read as the path.** -/
theorem ofText_text {path : Path} (h : path.Normal) : ofText path.text = path := by
  obtain ⟨root, parts⟩ := path
  obtain ⟨hr, hp⟩ := h
  by_cases hn : parts = []
  · subst hn
    rcases hr with rfl | rfl | rfl <;> rfl
  · have ht : (Path.mk root parts).text = root ++ List.intercalate ['/'] parts := by
      simp [text, hn]
    rw [ht]
    rcases hr with rfl | rfl | rfl
    · exact ofText_slashes_append hn hp 0
    · exact ofText_slashes_append hn hp 1
    · exact ofText_slashes_append hn hp 2

/-- **Different paths are spelled differently.** -/
theorem eq_of_text_eq {path other : Path} (h : path.Normal) (ho : other.Normal)
    (ht : path.text = other.text) : path = other := by
  rw [← ofText_text h, ht, ofText_text ho]

end MailScreen.Path
