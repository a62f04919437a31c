import TableLexer.Proofs.Calls
import TableLexer.Proofs.Concatenation

/-!
# Stable prefixes

A token is settled by the first character behind it. Where a source is cut off, only a token that
reaches the cut can turn out otherwise when more of the source is read. Main statement: every token
that ends before the end of a source is a token of each longer source as well, at the same index
and with the same place, and what was reported until then is the same.
-/

namespace TableLexer

variable {lexicon : Lexicon} {mark : Mark} {text : Text} {tokens : List Token}

/-- A text followed by more keeps the tokens that end before its end; the others reach it, so that
their attempts may go on. -/
theorem Scans.exists_stable (h : Scans lexicon mark text tokens) (more : Text) :
    ∃ stable reaching others, tokens = stable ++ reaching ∧
      Scans lexicon mark (text ++ more) (stable ++ others) ∧
      ∀ token ∈ reaching, (mark.afterAll text).position ≤ token.span.stop := by
  induction h with
  | @done mark =>
    obtain ⟨others, hs⟩ := exists_scans lexicon mark more
    exact ⟨[], [], others, rfl, hs, by simp⟩
  | blank hb _ ih =>
    obtain ⟨stable, reaching, others, rfl, hs, ho⟩ := ih
    exact ⟨stable, reaching, others, rfl, .blank hb hs, ho⟩
  | @token mark covered rest finished tokens hc hs ih =>
    cases rest with
    | nil =>
      obtain rfl := hs.eq_nil
      have ht : finished.text = covered := hc.text_eq
      have hend : (mark.afterAll (covered ++ [])).position =
          (finished.token lexicon mark).span.stop := by
        rw [List.append_nil, Finished.token, ht]
      obtain ⟨others, hs⟩ := exists_scans lexicon mark (covered ++ [] ++ more)
      refine ⟨[], _, others, rfl, hs, fun token hm => ?_⟩
      exact List.mem_singleton.mp hm ▸ Nat.le_of_eq hend
    | cons next left =>
      obtain ⟨stable, reaching, others, rfl, hs, ho⟩ := ih
      refine ⟨finished.token lexicon mark :: stable, reaching, others, rfl, ?_, ?_⟩
      · rw [List.append_assoc]
        exact .token (hc.of_cons (left ++ more)) hs
      · rwa [Mark.afterAll_append]

/-- Of a source and a longer one, the tokens of the source that end before its end are tokens of
both, at the same index. So many calls as it takes to come to one of them are answered alike, and
report alike. -/
theorem tokenize_stable (lexicon : Lexicon) (first more : Text)
    (hl : (first ++ more).length < countLimit) :
    ∃ tokens extended, ScansTo lexicon first tokens ∧ ScansTo lexicon (first ++ more) extended ∧
      ∀ index token, tokens[index]? = some token → token.span.stop < Text.byteLength first →
        extended[index]? = some token ∧
        ∀ recorded, ∃ here there collected,
          (Scanner.start lexicon first).calls (index + 1) ⟨false, recorded⟩ =
            .ok ((tokens.take (index + 1)).map some, here, collected) ∧
          (Scanner.start lexicon (first ++ more)).calls (index + 1) ⟨false, recorded⟩ =
            .ok ((tokens.take (index + 1)).map some, there, collected) := by
  have hfirst : first.length < countLimit := by
    rw [List.length_append] at hl
    omega
  obtain ⟨tokens, hs⟩ := exists_scans lexicon .origin first
  obtain ⟨stable, reaching, others, rfl, he, hr⟩ := hs.exists_stable more
  refine ⟨_, _, hs.scansTo hfirst, he.scansTo hl, fun index token hget hstop => ?_⟩
  have hindex : index < stable.length := by
    by_contra hn
    rw [List.getElem?_append_right (Nat.le_of_not_lt hn)] at hget
    have hend := hr token (List.mem_of_getElem? hget)
    rw [Mark.origin_afterAll] at hend
    exact Nat.not_le_of_lt hstop hend
  have hcount : (stable.take (index + 1)).length = index + 1 := List.length_take_of_le hindex
  have hsplit : ∀ behind, stable ++ behind =
      stable.take (index + 1) ++ (stable.drop (index + 1) ++ behind) := by
    intro behind
    rw [← List.append_assoc, List.take_append_drop]
  rw [List.getElem?_append_left hindex] at hget ⊢
  rw [List.take_append_of_le_length hindex]
  refine ⟨hget, fun recorded => ?_⟩
  have hshort := Scanner.awaits_start hs hfirst
  have hlong := Scanner.awaits_start he hl
  rw [hsplit] at hshort hlong
  obtain ⟨here, hhere, -⟩ := hshort.calls_append recorded
  obtain ⟨there, hthere, -⟩ := hlong.calls_append recorded
  rw [hcount] at hhere hthere
  exact ⟨here, there, _, hhere, hthere⟩

/-- A source that is cut off in a nested comment, behind an operator that is none. -/
theorem tokenize_stable_cut :
    ("&\n/* /*".toList ++ "*/ \"b".toList).length < countLimit ∧
      ∃ tokens extended, ScansTo .standard "&\n/* /*".toList tokens ∧
        ScansTo .standard ("&\n/* /*".toList ++ "*/ \"b".toList) extended ∧
        tokens[0]? = some ⟨.malformed .unknownOperator, "&".toList, ⟨0, 1, 1, 1⟩⟩ ∧
        1 < Text.byteLength "&\n/* /*".toList ∧
        extended[0]? = some ⟨.malformed .unknownOperator, "&".toList, ⟨0, 1, 1, 1⟩⟩ ∧
        ∃ here there collected,
          (Scanner.start .standard "&\n/* /*".toList).calls 1 ⟨false, []⟩ =
            .ok ([some ⟨.malformed .unknownOperator, "&".toList, ⟨0, 1, 1, 1⟩⟩], here,
              collected) ∧
          (Scanner.start .standard ("&\n/* /*".toList ++ "*/ \"b".toList)).calls 1 ⟨false, []⟩ =
            .ok ([some ⟨.malformed .unknownOperator, "&".toList, ⟨0, 1, 1, 1⟩⟩], there,
              collected) := by
  have hl : ("&\n/* /*".toList ++ "*/ \"b".toList).length < countLimit := by decide
  obtain ⟨tokens, extended, hs, he, h⟩ := tokenize_stable .standard _ _ hl
  have ht : tokens = [⟨.malformed .unknownOperator, "&".toList, ⟨0, 1, 1, 1⟩⟩,
      ⟨.malformed .unterminatedComment, "/* /*".toList, ⟨2, 7, 2, 1⟩⟩] :=
    hs.eq_of_tokenize (by decide +kernel)
  have hget : tokens[0]? = some ⟨.malformed .unknownOperator, "&".toList, ⟨0, 1, 1, 1⟩⟩ := by
    rw [ht]
    rfl
  have hstop : 1 < Text.byteLength "&\n/* /*".toList := by decide
  obtain ⟨hkept, hcalls⟩ := h 0 _ hget hstop
  have hc := hcalls []
  rw [ht] at hc
  exact ⟨hl, tokens, extended, hs, he, hget, hstop, hkept, hc⟩

end TableLexer
