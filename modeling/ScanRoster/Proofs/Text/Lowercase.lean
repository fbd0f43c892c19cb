import Mathlib.Data.List.Infix
import ScanRoster.Text.Lowercase

/-!
# Lower case in context

Lower-casing goes character by character, up to capital sigma, which hangs on its neighbours: it
gets another form where it ends a word.  So the lower case of a piece of a text stands in the lower
case of the text where the piece does unless one of its sigmas ends a word in only one of the two
(`prefix_go_iff`), and it always does if no neighbours could change that (`steady_iff_isInfix`).
-/

namespace ScanRoster.Text.Lowercase

/-- Whether a capital sigma between two texts ends a word. -/
def endsWord (before after : List Char) : Bool :=
  meetsCased before.reverse && !meetsCased after

/-- Whether each capital sigma of a text ends a word between two others exactly if it does so in the
text on its own. -/
def SigmasStand (before text after : List Char) : Prop :=
  ∀ i < text.length, text[i]? = some 'Σ' →
    endsWord (before ++ text.take i) (text.drop (i + 1) ++ after) =
      endsWord (text.take i) (text.drop (i + 1))

instance (before text after : List Char) : Decidable (SigmasStand before text after) :=
  inferInstanceAs (Decidable (∀ i < text.length, _ → _))

/-- Whether a text shows of each of its capital sigmas if it ends a word, whatever stands around the
text. -/
def Steady (text : List Char) : Prop :=
  ∀ before after, SigmasStand before text after

theorem SigmasStand.of_not_mem {text : List Char} (h : 'Σ' ∉ text) (before after : List Char) :
    SigmasStand before text after :=
  fun _ _ hsigma => absurd (List.mem_of_getElem? hsigma) h

/-! ## One character -/

theorem go_cons_of_ne {c : Char} (h : c ≠ 'Σ') (before rest : List Char) :
    go before (c :: rest) = go [] [c] ++ go (c :: before) rest := by
  simp [go, h]

theorem go_sigma (before rest : List Char) :
    go before.reverse ('Σ' :: rest) =
      (if endsWord before rest then 'ς' else 'σ') :: go (before ++ ['Σ']).reverse rest := by
  simp [go, endsWord]

/-- What is behind a piece of a text ends the lower case of the text. -/
theorem go_suffix (before text after : List Char) :
    go (text.reverse ++ before) after <:+ go before (text ++ after) := by
  induction text generalizing before with
  | nil => exact List.suffix_rfl
  | cons c text ih =>
      have htail := ih (c :: before)
      rw [List.reverse_cons, List.append_assoc]
      exact htail.trans (List.suffix_append _ _)

/-! ## Pieces of a text -/

/-- The lower case of a piece, of which a part is done, stands where the piece does exactly if the
sigmas of the rest have the same form there.  Before the piece there is `a`, and `b` is behind it. -/
theorem prefix_go_iff (a done text b : List Char) :
    go done.reverse text <+: go (a ++ done).reverse (text ++ b) ↔
      ∀ i < text.length, text[i]? = some 'Σ' →
        endsWord (a ++ (done ++ text.take i)) (text.drop (i + 1) ++ b) =
          endsWord (done ++ text.take i) (text.drop (i + 1)) := by
  induction text generalizing done with
  | nil => simp [go]
  | cons c rest ih =>
      have hrest := ih (done ++ [c])
      simp only [List.append_assoc, List.singleton_append] at hrest
      simp only [List.length_cons, Nat.forall_lt_succ_left, List.getElem?_cons_zero,
        List.getElem?_cons_succ, List.take_zero, List.take_succ_cons, List.drop_succ_cons,
        List.drop_zero, List.append_nil, List.cons_append, Option.some.injEq, ← hrest]
      by_cases hsigma : c = 'Σ'
      · subst hsigma
        rw [go_sigma, go_sigma, List.cons_prefix_cons, List.append_assoc]
        refine and_congr_left fun _ => ?_
        cases endsWord done rest <;> cases endsWord (a ++ done) (rest ++ b) <;> simp
      · rw [go_cons_of_ne hsigma, go_cons_of_ne hsigma (a ++ done).reverse,
          List.prefix_append_right_inj]
        simp [hsigma]

/-- Where the sigmas of a piece stand, its lower case is found in that of the whole text. -/
theorem SigmasStand.isInfix {a text b : List Char} (h : SigmasStand a text b) :
    lowercase text <:+: lowercase (a ++ text ++ b) := by
  have hprefix : go [] text <+: go a.reverse (text ++ b) := by
    simpa using (prefix_go_iff a [] text b).mpr (by simpa [SigmasStand] using h)
  have hsuffix : go a.reverse (text ++ b) <:+ go [] (a ++ (text ++ b)) := by
    simpa using go_suffix [] a (text ++ b)
  rw [List.append_assoc]
  exact hprefix.isInfix.trans hsuffix.isInfix

/-! ## Sigma of one form -/

/-- A small sigma of either form as the one within words. -/
def innerSigma (c : Char) : Char :=
  if c = 'ς' then 'σ' else c

/-- But for the form of sigma, lower-casing goes character by character. -/
theorem map_innerSigma_go (before text : List Char) :
    (go before text).map innerSigma = text.flatMap fun c => (go [] [c]).map innerSigma := by
  induction text generalizing before with
  | nil => rfl
  | cons c rest ih =>
      rw [List.flatMap_cons]
      by_cases hsigma : c = 'Σ'
      · subst hsigma
        rw [← List.reverse_reverse before, go_sigma, List.map_cons, ih]
        cases endsWord before.reverse rest <;> rfl
      · rw [go_cons_of_ne hsigma, List.map_append, ih]

theorem map_innerSigma_lowercase_append (text more : List Char) :
    (lowercase (text ++ more)).map innerSigma =
      (lowercase text).map innerSigma ++ (lowercase more).map innerSigma := by
  unfold lowercase
  rw [map_innerSigma_go [] (text ++ more), map_innerSigma_go [] text, map_innerSigma_go [] more,
    List.flatMap_append]

theorem mem_map_innerSigma_lowercase {text : List Char} (h : 'Σ' ∈ text) :
    'σ' ∈ (lowercase text).map innerSigma := by
  rw [lowercase, map_innerSigma_go, List.mem_flatMap]
  exact ⟨'Σ', h, by decide⟩

/-! ## A letter before or behind a text -/

/-- A list that a value may be moved along has that value only. -/
theorem eq_of_cons_eq_concat {α : Type} {l : List α} {x y : α} (h : x :: l = l ++ [y]) :
    x = y ∧ ∀ z ∈ l, z = x := by
  induction l with
  | nil => simpa using h
  | cons z l ih =>
      obtain ⟨rfl, htail⟩ := List.cons.inj h
      obtain ⟨hlast, hall⟩ := ih htail
      exact ⟨hlast, by simpa using hall⟩

/-- A list that stands in one with one more value is that one without its first or its last value. -/
theorem infix_of_length_eq_succ {α : Type} {l m : List α} (h : l <:+: m)
    (hlength : m.length = l.length + 1) : (∃ x, m = x :: l) ∨ ∃ x, m = l ++ [x] := by
  obtain ⟨before, after, rfl⟩ := h
  simp only [List.length_append] at hlength
  rcases before with _ | ⟨x, before⟩
  · obtain ⟨x, rfl⟩ := List.length_eq_one_iff.mp (by simpa using hlength)
    exact Or.inr ⟨x, rfl⟩
  · simp only [List.length_cons] at hlength
    obtain rfl : before = [] := List.length_eq_zero_iff.mp (by omega)
    obtain rfl : after = [] := List.length_eq_zero_iff.mp (by omega)
    exact Or.inl ⟨x, by simp⟩

theorem length_lowercase_append (text more : List Char) :
    (lowercase (text ++ more)).length = (lowercase text).length + (lowercase more).length := by
  simpa using congrArg List.length (map_innerSigma_lowercase_append text more)

/-- In a text whose lower case has one letter only, but for the form of sigma, there is no sigma. -/
theorem not_mem_of_map_innerSigma {text : List Char}
    (h : ∀ c ∈ (lowercase text).map innerSigma, c = 'a') : 'Σ' ∉ text := by
  intro hsigma
  have hletter := h 'σ' (mem_map_innerSigma_lowercase hsigma)
  exact absurd hletter (by decide)

theorem sigmasStand_of_infix_cons {text : List Char}
    (h : lowercase text <:+: lowercase ('A' :: text)) : SigmasStand ['A'] text [] := by
  have hletter : (lowercase ['A']).map innerSigma = ['a'] := rfl
  have hparts := map_innerSigma_lowercase_append ['A'] text
  rw [List.singleton_append, hletter] at hparts
  have hlength : (lowercase ('A' :: text)).length = (lowercase text).length + 1 := by
    rw [← List.singleton_append, length_lowercase_append, Nat.add_comm]
    rfl
  rcases infix_of_length_eq_succ h hlength with ⟨x, hwhole⟩ | ⟨x, hwhole⟩
  · have hsame : go ['A'] text = go [] text := (List.cons.inj hwhole).2
    have hprefix : go [].reverse text <+: go (['A'] ++ []).reverse (text ++ []) := by
      simp [hsame]
    simpa [SigmasStand] using (prefix_go_iff ['A'] [] text []).mp hprefix
  · -- found where the letter is, the text has this letter only
    rw [hwhole, List.map_append] at hparts
    have hall := (eq_of_cons_eq_concat hparts.symm).2
    exact .of_not_mem (not_mem_of_map_innerSigma hall) _ _

theorem sigmasStand_of_infix_concat {text : List Char}
    (h : lowercase text <:+: lowercase (text ++ ['A'])) : SigmasStand [] text ['A'] := by
  have hletter : (lowercase ['A']).map innerSigma = ['a'] := rfl
  have hparts := map_innerSigma_lowercase_append text ['A']
  rw [hletter] at hparts
  rcases infix_of_length_eq_succ h (length_lowercase_append text ['A']) with
    ⟨x, hwhole⟩ | ⟨x, hwhole⟩
  · rw [hwhole, List.map_cons] at hparts
    obtain ⟨hlast, hall⟩ := eq_of_cons_eq_concat hparts
    rw [hlast] at hall
    exact .of_not_mem (not_mem_of_map_innerSigma hall) _ _
  · have hprefix : go [].reverse text <+: go ([] ++ []).reverse (text ++ ['A']) :=
      ⟨[x], hwhole.symm⟩
    simpa [SigmasStand] using (prefix_go_iff [] [] text ['A']).mp hprefix

/-! ## Steady texts -/

/-- The neighbours of a text count where all of it is to be ignored. -/
theorem meetsCased_append (near far : List Char) :
    meetsCased (near ++ far) =
      if near.all isIgnorable then meetsCased far else meetsCased near := by
  induction near with
  | nil => rfl
  | cons c near ih =>
      unfold meetsCased at ih ⊢
      by_cases hignored : isIgnorable c = true
      · simpa [hignored] using ih
      · simp [hignored]

theorem meetsCased_of_all {text : List Char} (h : text.all isIgnorable = true) :
    meetsCased text = false := by
  have happend := meetsCased_append text []
  rw [List.append_nil, if_pos h] at happend
  exact happend

/-- Whether a text is steady shows with a letter before it and with a letter behind it. -/
theorem steady_iff {text : List Char} :
    Steady text ↔ SigmasStand ['A'] text [] ∧ SigmasStand [] text ['A'] := by
  constructor
  · exact fun h => ⟨h _ _, h _ _⟩
  · rintro ⟨hbefore, hafter⟩ before after i hi hsigma
    have hcased : meetsCased ['A'] = true := by decide +kernel
    have hbefore := hbefore i hi hsigma
    have hafter := hafter i hi hsigma
    -- a side of the sigma on which the text has something to look at decides without its neighbours
    simp only [endsWord, List.reverse_append, List.reverse_singleton, List.nil_append,
      List.append_nil, meetsCased_append, hcased] at hbefore hafter ⊢
    cases hleft : (text.take i).reverse.all isIgnorable <;>
      cases hright : (text.drop (i + 1)).all isIgnorable <;>
      simp_all [meetsCased_of_all]

/-- The lower case of a text stands in that of every text around it exactly if it is steady. -/
theorem steady_iff_isInfix {text : List Char} :
    Steady text ↔ ∀ before after, lowercase text <:+: lowercase (before ++ text ++ after) := by
  constructor
  · exact fun h before after => (h before after).isInfix
  · intro h
    rw [steady_iff]
    exact ⟨sigmasStand_of_infix_cons (by simpa using h ['A'] []),
      sigmasStand_of_infix_concat (by simpa using h [] ['A'])⟩

end ScanRoster.Text.Lowercase
