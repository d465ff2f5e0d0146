import Mathlib
import QueryWarden.Text.Trim

/-!
# Cutting a text and joining its pieces

A text is either clear of the characters that it is cut at, or a clear piece, such a character and
a rest that is cut in the same way. What holds of texts that are cut is shown along this way of
building them up.
-/

namespace QueryWarden.Text

variable {cut : Char → Bool}

/-- No character of the text is one that it is cut at. -/
def IsClear (cut : Char → Bool) (text : List Char) : Prop :=
  ∀ c ∈ text, cut c = false

theorem isClear_of_notMem {c : Char} {text : List Char} (hclear : c ∉ text) :
    IsClear (· == c) text :=
  fun _ hmem => beq_eq_false_iff_ne.mpr fun heq => hclear (heq ▸ hmem)

/-- A text is cut at the first character where it can be, and then its rest is. -/
theorem cutInduction (cut : Char → Bool) {motive : List Char → Prop}
    (clear : ∀ text, IsClear cut text → motive text)
    (part : ∀ piece c rest, IsClear cut piece → cut c = true → motive rest →
      motive (piece ++ c :: rest)) (text : List Char) : motive text := by
  induction hlength : text.length using Nat.strong_induction_on generalizing text with
  | _ length ih =>
      cases hrest : text.dropWhile (fun c => !cut c) with
      | nil =>
          refine clear text fun c hc => ?_
          simpa using List.dropWhile_eq_nil_iff.mp hrest c hc
      | cons c rest =>
          have htext : text = text.takeWhile (fun c => !cut c) ++ c :: rest := by
            rw [← hrest, List.takeWhile_append_dropWhile]
          have hc : cut c = true := by
            have hhead := List.head?_dropWhile_not (fun c => !cut c) text
            rw [hrest] at hhead
            simpa using hhead
          have hpiece : IsClear cut (text.takeWhile fun c => !cut c) :=
            fun d hd => by simpa using List.mem_takeWhile_imp hd
          rw [htext]
          refine part _ c rest hpiece hc (ih rest.length ?_ rest rfl)
          rw [← hlength, htext]
          simp
          omega

theorem splitWhere_clear {text : List Char} (hclear : IsClear cut text) :
    splitWhere cut text = [text] := by
  induction text with
  | nil => rfl
  | cons c text ih =>
      obtain ⟨hc, htext⟩ := List.forall_mem_cons.mp hclear
      rw [splitWhere, ih htext, hc]
      rfl

theorem splitWhere_append_cons {piece : List Char} (hclear : IsClear cut piece) {c : Char}
    (hc : cut c = true) (rest : List Char) :
    splitWhere cut (piece ++ c :: rest) = piece :: splitWhere cut rest := by
  induction piece with
  | nil => rw [List.nil_append, splitWhere, if_pos hc]
  | cons d piece ih =>
      obtain ⟨hd, hpiece⟩ := List.forall_mem_cons.mp hclear
      rw [List.cons_append, splitWhere, ih hpiece, hd]
      rfl

/-- A character that the text is cut at parts its pieces. -/
theorem splitWhere_append {c : Char} (hc : cut c = true) (text rest : List Char) :
    splitWhere cut (text ++ c :: rest) = splitWhere cut text ++ splitWhere cut rest := by
  induction text using cutInduction cut with
  | clear text hclear => rw [splitWhere_append_cons hclear hc, splitWhere_clear hclear]; rfl
  | part piece d back hpiece hd ih =>
      rw [List.append_assoc, List.cons_append, splitWhere_append_cons hpiece hd, ih,
        splitWhere_append_cons hpiece hd]
      rfl

/-- A change of the characters that leaves the cuts where they are changes each piece. -/
theorem splitWhere_map {change : Char → Char} (hchange : ∀ c, cut (change c) = cut c)
    (text : List Char) :
    splitWhere cut (text.map change) = (splitWhere cut text).map (List.map change) := by
  have hmap : ∀ piece, IsClear cut piece → IsClear cut (piece.map change) := by
    intro piece hpiece
    refine List.forall_mem_map.mpr fun c hc => ?_
    rw [hchange, hpiece c hc]
  induction text using cutInduction cut with
  | clear text hclear => rw [splitWhere_clear hclear, splitWhere_clear (hmap text hclear)]; rfl
  | part piece d back hpiece hd ih =>
      have hcut : cut (change d) = true := by rw [hchange, hd]
      rw [List.map_append, List.map_cons, splitWhere_append_cons (hmap piece hpiece) hcut, ih,
        splitWhere_append_cons hpiece hd]
      rfl

/-- A piece has only characters of the text, and none that it is cut at. -/
theorem mem_of_mem_splitWhere {text piece : List Char} (hpiece : piece ∈ splitWhere cut text)
    {c : Char} (hc : c ∈ piece) : c ∈ text ∧ cut c = false := by
  induction text using cutInduction cut with
  | clear text hclear =>
      rw [splitWhere_clear hclear, List.mem_singleton] at hpiece
      subst hpiece
      exact ⟨hc, hclear c hc⟩
  | part front d rest hfront hd ih =>
      rw [splitWhere_append_cons hfront hd, List.mem_cons] at hpiece
      rcases hpiece with rfl | hpiece
      · exact ⟨List.mem_append_left _ hc, hfront c hc⟩
      · obtain ⟨hmem, hclear⟩ := ih hpiece
        exact ⟨List.mem_append_right _ (List.mem_cons_of_mem _ hmem), hclear⟩

theorem joinWith_cons {pieces : List (List Char)} (hne : pieces ≠ []) (separator piece : List Char) :
    joinWith separator (piece :: pieces) = piece ++ separator ++ joinWith separator pieces := by
  obtain ⟨next, pieces, rfl⟩ := List.exists_cons_of_ne_nil hne
  rfl

theorem mem_joinWith {separator : List Char} {pieces : List (List Char)} {c : Char}
    (hc : c ∈ joinWith separator pieces) : c ∈ separator ∨ ∃ piece ∈ pieces, c ∈ piece := by
  induction pieces with
  | nil => cases hc
  | cons piece pieces ih =>
      by_cases hne : pieces = []
      · subst hne
        exact .inr ⟨piece, List.mem_cons_self, hc⟩
      · rw [joinWith_cons hne, List.mem_append, List.mem_append] at hc
        rcases hc with (hc | hc) | hc
        · exact .inr ⟨piece, List.mem_cons_self, hc⟩
        · exact .inl hc
        · exact (ih hc).imp id fun ⟨other, hother, hmem⟩ =>
            ⟨other, List.mem_cons_of_mem _ hother, hmem⟩

theorem splitWhere_ne_nil (cut : Char → Bool) (text : List Char) : splitWhere cut text ≠ [] := by
  induction text using cutInduction cut with
  | clear text hclear => simp [splitWhere_clear hclear]
  | part piece c rest hpiece hc _ => simp [splitWhere_append_cons hpiece hc]

/-- A character that the text is not cut at goes in front of the first piece. -/
theorem exists_splitWhere_cons (cut : Char → Bool) {c : Char} (hc : cut c = false)
    (text : List Char) :
    ∃ piece pieces, splitWhere cut text = piece :: pieces ∧
      splitWhere cut (c :: text) = (c :: piece) :: pieces := by
  obtain ⟨piece, pieces, hsplit⟩ := List.exists_cons_of_ne_nil (splitWhere_ne_nil cut text)
  refine ⟨piece, pieces, hsplit, ?_⟩
  rw [splitWhere, hsplit, hc]
  rfl

end QueryWarden.Text
