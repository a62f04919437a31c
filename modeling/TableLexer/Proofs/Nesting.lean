import TableLexer.Proofs.Attempts
import TableLexer.Proofs.Reference

/-!
# Nesting of block comments

Openers and closers are paired greedily from left to right, two characters at a time. An attempt
sees one character at a time and remembers a last one that may still pair. Main statement: from
every depth it counts exactly the greedy pairs, and is completed at the slash of the closer by
which closers outnumber openers by the depth for the first time.
-/

namespace TableLexer

namespace Grammar

/-- Number of openers. -/
def openers (text : Text) : Nat := (delimiters text).count .opener

/-- Number of closers. -/
def closers (text : Text) : Nat := (delimiters text).count .closer

/-- The shortest beginning of a text in which openers less closers come to minus a depth. -/
def closing? (depth : Nat) (text : Text) : Option Text :=
  shortest? (fun part => (openers part : Int) - closers part == -(depth : Int)) text

/-- What is paired stays so whatever follows. -/
theorem delimiters_mono {part text : Text} (h : part <+: text) :
    delimiters part <+: delimiters text := by
  obtain ⟨more, rfl⟩ := h
  induction more using List.reverseRecOn with
  | nil => rw [List.append_nil]
  | append_singleton more char ih =>
    rw [← List.append_assoc, delimiters_concat]
    exact ih.trans (List.prefix_append _ _)

theorem openers_mono {part text : Text} (h : part <+: text) :
    openers part ≤ openers text :=
  (delimiters_mono h).sublist.count_le _

/-- The character that completes a closer completes no opener. -/
theorem not_opener_of_closer {text : Text} {char : Char}
    (h : unpaired text = some '*' ∧ char = '/') :
    ¬ (unpaired text = some '/' ∧ char = '*') := by
  rintro ⟨-, rfl⟩
  exact absurd h.2 (by decide)

theorem openers_concat (text : Text) (char : Char) :
    openers (text ++ [char]) =
      openers text + if unpaired text = some '/' ∧ char = '*' then 1 else 0 := by
  rw [openers, openers, delimiters_concat, List.count_append]
  split_ifs with hc ho ho
  · exact absurd ho (not_opener_of_closer hc)
  all_goals rfl

theorem closers_concat (text : Text) (char : Char) :
    closers (text ++ [char]) =
      closers text + if unpaired text = some '*' ∧ char = '/' then 1 else 0 := by
  rw [closers, closers, delimiters_concat, List.count_append]
  split_ifs <;> rfl

/-- Closers come one at a time, so that they are fewer until they are as many. -/
theorem closers_lt {depth : Nat} {text : Text} (hd : 1 ≤ depth)
    (hn : ∀ part, part <+: text → closers part ≠ depth + openers part) :
    closers text < depth + openers text := by
  induction text using List.reverseRecOn with
  | nil => exact hd
  | append_singleton text char ih =>
    have hlt := ih fun part hp => hn part (hp.trans (List.prefix_append _ _))
    have hne := hn _ List.prefix_rfl
    rw [openers_concat, closers_concat] at hne ⊢
    split_ifs at hne ⊢ <;> omega

/-- A shortest prefix is a prefix in the family, and no shorter one is. -/
theorem shortest?_spec {accepts : Text → Bool} {text part : Text}
    (h : shortest? accepts text = some part) :
    part <+: text ∧ accepts part = true ∧
      ∀ shorter, shorter <+: part → shorter ≠ part → accepts shorter = false := by
  induction text generalizing accepts part with
  | nil =>
    obtain rfl : part = [] := List.mem_singleton.mp (List.mem_of_find?_eq_some h)
    have ha := shortest?_mem h
    exact ⟨List.prefix_rfl, ha, fun shorter hs hne => absurd (List.prefix_nil.mp hs) hne⟩
  | cons head tail ih =>
    rw [shortest?, List.inits_cons, List.find?_cons] at h
    cases ha : accepts [] with
    | true =>
      rw [ha] at h
      cases h
      exact ⟨List.nil_prefix, ha, fun shorter hs hne => absurd (List.prefix_nil.mp hs) hne⟩
    | false =>
      rw [ha, List.find?_map] at h
      obtain ⟨rest, hr, rfl⟩ := Option.map_eq_some_iff.mp h
      obtain ⟨hp, hm, hs⟩ := ih hr
      refine ⟨List.cons_prefix_cons.mpr ⟨rfl, hp⟩, hm, fun shorter hle hne => ?_⟩
      cases shorter with
      | nil => exact ha
      | cons first others =>
        obtain ⟨rfl, htail⟩ := List.cons_prefix_cons.mp hle
        exact hs others htail fun he => hne (by rw [he])

/-- Openers less closers are minus a depth where closers are as many as the openers and the
depth. -/
theorem beq_neg_eq_false_iff {depth : Nat} {part : Text} :
    ((openers part : Int) - closers part == -(depth : Int)) = false ↔
      closers part ≠ depth + openers part := by
  rw [beq_eq_false_iff_ne]
  omega

/-- The shortest closing beginning ends with a closer, before which there was one comment open,
and nowhere before were there as many closers. -/
theorem closing?_eq_some {depth : Nat} {text consumed : Text} (hd : 1 ≤ depth)
    (h : closing? depth text = some consumed) :
    ∃ front rest, consumed = front ++ ['/'] ∧ text = consumed ++ rest ∧
      unpaired front = some '*' ∧ depth + openers front = closers front + 1 ∧
      ∀ part, part <+: front → closers part < depth + openers part := by
  obtain ⟨⟨rest, rfl⟩, hm, hs⟩ := shortest?_spec h
  rw [beq_iff_eq] at hm
  obtain rfl | ⟨front, last, rfl⟩ := consumed.eq_nil_or_concat
  · have hz : ((0 : Nat) : Int) - (0 : Nat) = -(depth : Int) := hm
    omega
  rw [List.concat_eq_append] at hm hs ⊢
  have hopen : ∀ part, part <+: front → closers part < depth + openers part := by
    intro part hp
    refine closers_lt hd fun shorter hshort => beq_neg_eq_false_iff.mp (hs shorter ?_ ?_)
    · exact (hshort.trans hp).trans (List.prefix_append _ _)
    · rintro rfl
      have hlength := (hshort.trans hp).length_le
      rw [List.length_append, List.length_singleton] at hlength
      omega
  have hlt := hopen front List.prefix_rfl
  rw [openers_concat, closers_concat] at hm
  have hpair : unpaired front = some '*' ∧ last = '/' := by
    by_contra hno
    rw [if_neg hno] at hm
    split_ifs at hm <;> omega
  rw [if_pos hpair, if_neg (not_opener_of_closer hpair)] at hm
  obtain ⟨hstar, rfl⟩ := hpair
  exact ⟨front, rest, rfl, rfl, hstar, by omega, hopen⟩

/-- Without a closing beginning there are fewer closers everywhere. -/
theorem closing?_eq_none {depth : Nat} {text : Text} (hd : 1 ≤ depth)
    (h : closing? depth text = none) :
    ∀ part, part <+: text → closers part < depth + openers part := by
  intro part hp
  refine closers_lt hd fun shorter hshort => beq_neg_eq_false_iff.mp ?_
  have hm := (List.mem_inits shorter text).mpr (hshort.trans hp)
  exact Bool.not_eq_true _ ▸ List.find?_eq_none.mp h shorter hm

end Grammar

open Grammar

namespace Attempt

/-- Every character of a text belongs to an attempt, which goes on as another behind it. -/
inductive Absorbs (lexicon : Lexicon) : Attempt → Text → Attempt → Prop
  /-- There is no character. -/
  | nil {attempt : Attempt} : Absorbs lexicon attempt [] attempt
  /-- The first character extends the attempt, and the others belong to what it became. -/
  | cons {attempt next last : Attempt} {char : Char} {rest : Text}
      (h : attempt.step lexicon char = .extend next) (hr : Absorbs lexicon next rest last) :
      Absorbs lexicon attempt (char :: rest) last

/-- A further character may come last as well. -/
theorem Absorbs.concat {lexicon : Lexicon} {attempt last next : Attempt} {text : Text}
    {char : Char} (h : Absorbs lexicon attempt text last)
    (hs : last.step lexicon char = .extend next) :
    Absorbs lexicon attempt (text ++ [char]) next := by
  induction h with
  | nil => exact .cons hs .nil
  | cons h _ ih => exact .cons h (ih hs)

/-- The block comment that has so many comments open before a text and holds the text. -/
def nested (covered : Text) (depth : Nat) (text : Text) : Attempt :=
  .blockComment (covered ++ text) (depth + openers text - closers text) (unpaired text)

/-- One character that leaves the closers fewer changes the depth by what it pairs. -/
theorem step_nested (lexicon : Lexicon) (covered : Text) {text : Text} {depth : Nat} {char : Char}
    (hopen : closers text < depth + openers text)
    (hnext : closers (text ++ [char]) < depth + openers (text ++ [char]))
    (hl : depth + openers (text ++ [char]) ≤ nestingLimit) :
    (nested covered depth text).step lexicon char =
      .extend (nested covered depth (text ++ [char])) := by
  rw [openers_concat] at hl hnext
  rw [closers_concat] at hnext
  rw [nested, nested, step, stepBlockComment, unpaired_concat, openers_concat, closers_concat,
    List.append_assoc]
  by_cases hcloser : unpaired text = some '*' ∧ char = '/'
  · have hno := not_opener_of_closer hcloser
    rw [if_pos hcloser, if_neg hno] at hnext
    have hd : depth + (openers text + 0) - (closers text + 1) =
        depth + openers text - closers text - 1 := by omega
    rw [if_pos hcloser, if_pos hcloser, if_neg hno, if_pos (Or.inl hcloser), if_neg (by omega), hd]
  by_cases hopener : unpaired text = some '/' ∧ char = '*'
  · rw [if_pos hopener] at hl
    have hd : min (depth + openers text - closers text + 1) nestingLimit =
        depth + (openers text + 1) - (closers text + 0) := by omega
    rw [if_neg hcloser, if_neg hcloser, if_pos hopener, if_pos hopener, if_pos (Or.inr hopener), hd]
  · rw [if_neg hcloser, if_neg hcloser, if_neg hopener, if_neg hopener,
      if_neg (not_or.mpr ⟨hcloser, hopener⟩), Nat.add_zero, Nat.add_zero]
    split_ifs <;> rfl

/-- As long as closers are fewer, a text belongs to the comment. -/
theorem absorbs_nested (lexicon : Lexicon) (covered : Text) {text : Text} {depth : Nat}
    (hopen : ∀ part, part <+: text → closers part < depth + openers part)
    (hl : depth + openers text ≤ nestingLimit) :
    Absorbs lexicon (.blockComment covered depth none) text (nested covered depth text) := by
  induction text using List.reverseRecOn with
  | nil =>
    have hs : nested covered depth [] = .blockComment covered depth none := by
      rw [nested, List.append_nil]
      rfl
    rw [hs]
    exact .nil
  | append_singleton text char ih =>
    have hfront := openers_mono (List.prefix_append text [char])
    have hlt := hopen _ List.prefix_rfl
    refine (ih (fun part hp => hopen part (hp.trans (List.prefix_append _ _)))
      (by omega)).concat ?_
    exact step_nested lexicon covered (hopen text (List.prefix_append _ _)) hlt hl

end Attempt

open Attempt

/-- A block comment at any depth follows the greedy pairs of what is ahead, as long as the depth
can be counted. Where closers less openers first come to the depth, it takes all before the slash
of that closer and is completed by the slash; otherwise it takes all, its depth is greater by the
openers and less by the closers, and it remembers a last character that is unpaired. -/
theorem nesting_follows_pairs (lexicon : Lexicon) (covered : Text) (depth : Nat) (ahead : Text)
    (hd : 1 ≤ depth) (hl : depth + openers ahead < UInt32.size) :
    (∀ consumed, closing? depth ahead = some consumed → ∃ front rest,
      consumed = front ++ ['/'] ∧ ahead = consumed ++ rest ∧ unpaired front = some '*' ∧
      Absorbs lexicon (.blockComment covered depth none) front
        (.blockComment (covered ++ front) 1 (some '*')) ∧
      step lexicon (.blockComment (covered ++ front) 1 (some '*')) '/' =
        .close ⟨.comment, covered ++ consumed⟩) ∧
    (closing? depth ahead = none → ∃ deep : Nat,
      (deep : Int) = depth + openers ahead - closers ahead ∧ 1 ≤ deep ∧
      Absorbs lexicon (.blockComment covered depth none) ahead
        (.blockComment (covered ++ ahead) deep (unpaired ahead))) := by
  have hlimit : depth + openers ahead ≤ nestingLimit := Nat.le_of_lt_succ hl
  constructor
  · intro consumed h
    obtain ⟨front, rest, rfl, rfl, hstar, hone, hopen⟩ := closing?_eq_some hd h
    have hless := openers_mono ((List.prefix_append front ['/']).trans
      (List.prefix_append _ rest))
    have hfront : nested covered depth front = .blockComment (covered ++ front) 1 (some '*') := by
      rw [nested, hone, Nat.add_sub_cancel_left, hstar]
    have habsorbs := absorbs_nested lexicon covered hopen (by omega)
    rw [hfront] at habsorbs
    refine ⟨front, rest, rfl, rfl, hstar, habsorbs, ?_⟩
    rw [step, stepBlockComment, if_pos ⟨rfl, rfl⟩, if_pos (Nat.le_refl 1), List.append_assoc]
  · intro h
    have hopen := closing?_eq_none hd h
    have hlt := hopen ahead List.prefix_rfl
    exact ⟨depth + openers ahead - closers ahead, by omega, by omega,
      absorbs_nested lexicon covered hopen hlimit⟩

/-- Runs of slashes and stars that overlap: one comment is closed by what is ahead, two others
are not. -/
theorem nesting_follows_pairs_overlapping :
    1 ≤ 1 ∧ 1 + openers "/*/**/*/ **/ /".toList < UInt32.size ∧
      closing? 1 "/*/**/*/ **/ /".toList = some "/*/**/*/ **/".toList ∧
      Absorbs .standard (.blockComment "/*".toList 1 none) "/*/**/*/ **".toList
        (.blockComment "/*/*/**/*/ **".toList 1 (some '*')) ∧
      step .standard (.blockComment "/*/*/**/*/ **".toList 1 (some '*')) '/' =
        .close ⟨.comment, "/*/*/**/*/ **/".toList⟩ ∧
      1 ≤ 2 ∧ 2 + openers "*//*/*/ *".toList < UInt32.size ∧
      closing? 2 "*//*/*/ *".toList = none ∧
      Absorbs .standard (.blockComment "/*/*".toList 2 none) "*//*/*/ *".toList
        (.blockComment "/*/**//*/*/ *".toList 3 (some '*')) := by
  have hl : 1 + openers "/*/**/*/ **/ /".toList < UInt32.size := by decide
  have hl' : 2 + openers "*//*/*/ *".toList < UInt32.size := by decide
  have hsome : closing? 1 "/*/**/*/ **/ /".toList = some "/*/**/*/ **/".toList := by decide
  have hnone : closing? 2 "*//*/*/ *".toList = none := by decide
  obtain ⟨front, rest, he, -, -, habsorbs, hstep⟩ :=
    (nesting_follows_pairs .standard "/*".toList 1 _ (Nat.le_refl 1) hl).1 _ hsome
  obtain rfl : "/*/**/*/ **".toList = front := List.append_cancel_right he
  obtain ⟨deep, hdeep, -, hopen⟩ :=
    (nesting_follows_pairs .standard "/*/*".toList 2 _ (Nat.le_succ 1) hl').2 hnone
  obtain rfl : 3 = deep := Int.ofNat.inj hdeep.symm
  exact ⟨Nat.le_refl 1, hl, hsome, habsorbs, hstep, Nat.le_succ 1, hl', hnone, hopen⟩

end TableLexer
