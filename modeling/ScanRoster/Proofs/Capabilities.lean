import Mathlib.Data.List.Basic
import ScanRoster.SecurityClass

/-!
# The tokens of a capability text

The class of a capability text depends on its tokens only, the longest runs of characters without a
separator, and it is the highest-ranking class that a whole token names.  So texts are joined as
their classes are, and neither the order of the tokens nor what separates them matters.
-/

namespace ScanRoster.SecurityClass

/-! ## Tokens -/

/-- A text is written as tokens with a separator between neighbours.  Where separators follow each
other or stand at an end of the text, there is an empty token. -/
inductive Written : List (List Char) → List Char → Prop
  | single (token : List Char) (hwhole : ∀ c ∈ token, isSeparator c = false) :
      Written [token] token
  | cons (token : List Char) (sep : Char) {tokens : List (List Char)} {rest : List Char}
      (hwhole : ∀ c ∈ token, isSeparator c = false) (hsep : isSeparator sep = true)
      (hrest : Written tokens rest) : Written (token :: tokens) (token ++ sep :: rest)

/-- A run of characters without a separator that no neighbour makes longer. -/
structure MaximalRun (text run : List Char) : Prop where
  nonempty : run ≠ []
  whole : ∀ c ∈ run, isSeparator c = false
  bounded : ∃ before after, text = before ++ run ++ after ∧
    (∀ c ∈ before.getLast?, isSeparator c = true) ∧ ∀ c ∈ after.head?, isSeparator c = true

section

variable {tokens : List (List Char)} {text run : List Char}

theorem Written.splitOnP_eq (h : Written tokens text) : text.splitOnP isSeparator = tokens := by
  induction h with
  | single token hwhole => exact List.splitOnP_eq_singleton hwhole
  | cons token sep hwhole hsep hrest ih =>
      rw [List.splitOnP_append_cons token _ hsep, List.splitOnP_eq_singleton hwhole, ih]
      rfl

/-- A character that is no separator makes the first token longer. -/
theorem Written.exists_cons (h : Written tokens text) {c : Char} (hc : isSeparator c = false) :
    ∃ tokens', Written tokens' (c :: text) := by
  cases h with
  | single token hwhole =>
      exact ⟨_, .single (c :: text) (List.forall_mem_cons.mpr ⟨hc, hwhole⟩)⟩
  | cons token sep hwhole hsep hrest =>
      exact ⟨_, .cons (c :: token) sep (List.forall_mem_cons.mpr ⟨hc, hwhole⟩) hsep hrest⟩

theorem exists_written (text : List Char) : ∃ tokens, Written tokens text := by
  induction text with
  | nil => exact ⟨[[]], .single [] nofun⟩
  | cons c rest ih =>
      obtain ⟨tokens, hrest⟩ := ih
      cases hc : isSeparator c with
      | true => exact ⟨_, .cons [] c nofun hc hrest⟩
      | false => exact hrest.exists_cons hc

theorem written_splitOnP (text : List Char) : Written (text.splitOnP isSeparator) text := by
  obtain ⟨tokens, hwritten⟩ := exists_written text
  rwa [hwritten.splitOnP_eq]

/-- A run that ends where its text ends, and begins where the text or a separator before it does. -/
theorem mem_splitOnP_of_suffix {before : List Char} (hwhole : ∀ c ∈ run, isSeparator c = false)
    (hbefore : ∀ c ∈ before.getLast?, isSeparator c = true) :
    run ∈ (before ++ run).splitOnP isSeparator := by
  have hrun : run.splitOnP isSeparator = [run] := List.splitOnP_eq_singleton hwhole
  rcases List.eq_nil_or_concat' before with rfl | ⟨earlier, sep, rfl⟩
  · rw [List.nil_append, hrun]
    exact List.mem_singleton_self run
  · have hsep : isSeparator sep = true := hbefore sep (by simp)
    rw [List.append_assoc, List.singleton_append, List.splitOnP_append_cons _ _ hsep, hrun]
    exact List.mem_append_right _ (List.mem_singleton_self run)

/-- The longest runs without a separator are the tokens that are not empty. -/
theorem Written.maximalRun_iff (h : Written tokens text) :
    MaximalRun text run ↔ run ∈ tokens ∧ run ≠ [] := by
  constructor
  · rintro ⟨hnonempty, hwhole, before, after, rfl, hbefore, hafter⟩
    refine ⟨?_, hnonempty⟩
    rw [← h.splitOnP_eq]
    have hmem := mem_splitOnP_of_suffix hwhole hbefore
    cases after with
    | nil => rwa [List.append_nil]
    | cons sep rest =>
        rw [List.splitOnP_append_cons _ _ (hafter sep rfl)]
        exact List.mem_append_left _ hmem
  · rintro ⟨hmem, hnonempty⟩
    induction h with
    | single token hwhole =>
        obtain rfl := List.mem_singleton.mp hmem
        exact ⟨hnonempty, hwhole, [], [], by simp, nofun, nofun⟩
    | cons token sep hwhole hsep hrest ih =>
        rcases List.mem_cons.mp hmem with rfl | hlater
        · refine ⟨hnonempty, hwhole, [], sep :: _, rfl, nofun, ?_⟩
          rintro _ ⟨⟩
          exact hsep
        · obtain ⟨-, hall, before, after, rfl, hbefore, hafter⟩ := ih hlater
          refine ⟨hnonempty, hall, token ++ sep :: before, after, by simp, fun c hc => ?_, hafter⟩
          -- what stands before the run ends with the separator of the token, or as it did
          rw [List.getLast?_append_cons] at hc
          cases before with
          | nil =>
              obtain rfl : sep = c := by simpa using hc
              exact hsep
          | cons first earlier => exact hbefore c (by rwa [List.getLast?_cons_cons] at hc)

end

/-! ## Words for classes -/

/-- The words that name a class. -/
def words : List (String × SecurityClass) :=
  [("WEP", .wep), ("SAE", .sae), ("PSK", .psk), ("EAP_SUITE_B_192", .eapSuiteB), ("EAP", .eap),
    ("OWE", .owe), ("OWE_TRANSITION", .owe)]

/-- Whether two texts differ in nothing but the case of ASCII letters. -/
def SameLetters (a b : List Char) : Prop :=
  a.map Char.toUpper = b.map Char.toUpper

instance (a b : List Char) : Decidable (SameLetters a b) :=
  inferInstanceAs (Decidable (_ = _))

/-- Whether a token is a word for a class, letters of either case. -/
def Names (token : List Char) (c : SecurityClass) : Prop :=
  ∃ word, (word, c) ∈ words ∧ SameLetters token word.toList

/-- Whether one of the tokens of a text names a class. -/
def Carries (text : List Char) (c : SecurityClass) : Prop :=
  ∃ run, MaximalRun text run ∧ Names run c

/-- A class is the highest-ranking one that a token of a text names, or the open class where no
token names any. -/
def IsClassOf (text : List Char) (c : SecurityClass) : Prop :=
  (Carries text c ∧ ∀ d, Carries text d → d.rank ≤ c.rank) ∨
    (c = .openAccess ∧ ∀ d, ¬ Carries text d)

section

variable {token token' text : List Char} {tokens : List (List Char)} {c d : SecurityClass}

theorem Names.of_sameLetters (h : Names token c) (hsame : SameLetters token token') :
    Names token' c := by
  obtain ⟨word, hword, hletters⟩ := h
  exact ⟨word, hword, hsame.symm.trans hletters⟩

theorem toUpper_of_mem_words {word : String} (hword : (word, c) ∈ words) :
    word.toList.map Char.toUpper = word.toList := by
  have hall : ∀ p ∈ words, p.1.toList.map Char.toUpper = p.1.toList := by decide
  exact hall _ hword

theorem ofToken?_eq (token : List Char) : ofToken? token =
    (words.find? (·.1 == String.ofList (token.map Char.toUpper))).map (·.2) := by
  unfold ofToken?
  generalize String.ofList (token.map Char.toUpper) = word
  split
  case h_8 hwep hsae hpsk hsuite heap howe htransition =>
    have hnone : words.find? (·.1 == word) = none := by
      rw [List.find?_eq_none]
      rintro ⟨other, c⟩ hmem hother
      obtain rfl := eq_of_beq hother
      simp only [words, List.mem_cons, Prod.mk.injEq, List.not_mem_nil, or_false] at hmem
      tauto
    rw [hnone]
    rfl
  all_goals rfl

theorem ofToken?_eq_some_iff : ofToken? token = some c ↔ Names token c := by
  rw [ofToken?_eq, Option.map_eq_some_iff]
  constructor
  · rintro ⟨⟨word, c⟩, hfound, rfl⟩
    have hmem := List.mem_of_find?_eq_some hfound
    have hword : word = String.ofList (token.map Char.toUpper) := by
      simpa using List.find?_some hfound
    refine ⟨word, hmem, ?_⟩
    rw [SameLetters, toUpper_of_mem_words hmem, hword, String.toList_ofList]
  · rintro ⟨word, hmem, hletters⟩
    rw [SameLetters, toUpper_of_mem_words hmem] at hletters
    -- no word is listed twice
    have hfirst : ∀ p ∈ words, words.find? (·.1 == p.1) = some p := by decide
    rw [hletters, String.ofList_toList]
    exact ⟨_, hfirst _ hmem, rfl⟩

theorem exists_names_iff : (∃ c, Names token c) ↔ (ofToken? token).isSome = true := by
  simp only [Option.isSome_iff_exists, ofToken?_eq_some_iff]

theorem Names.rank_pos (h : Names token c) : 0 < c.rank := by
  obtain ⟨word, hmem, -⟩ := h
  have hall : ∀ p ∈ words, 0 < p.2.rank := by decide
  exact hall _ hmem

theorem Names.ne_nil (h : Names token c) : token ≠ [] := by
  obtain ⟨word, hword, hletters⟩ := h
  have hall : ∀ p ∈ words, p.1.toList ≠ [] := by decide
  rintro rfl
  exact hall _ hword (List.map_eq_nil_iff.mp hletters.symm)

theorem Written.carries_iff (h : Written tokens text) :
    Carries text c ↔ ∃ token ∈ tokens, Names token c := by
  constructor
  · rintro ⟨run, hrun, hnames⟩
    exact ⟨run, (h.maximalRun_iff.mp hrun).1, hnames⟩
  · rintro ⟨token, hmem, hnames⟩
    exact ⟨token, h.maximalRun_iff.mpr ⟨hmem, hnames.ne_nil⟩, hnames⟩

theorem IsClassOf.unique (hc : IsClassOf text c) (hd : IsClassOf text d) : c = d := by
  rcases hc with ⟨hc, hctop⟩ | ⟨rfl, hcnone⟩
  · rcases hd with ⟨hd, hdtop⟩ | ⟨rfl, hdnone⟩
    · exact rank_injective (Nat.le_antisymm (hdtop c hc) (hctop d hd))
    · exact absurd hc (hdnone c)
  · rcases hd with ⟨hd, hdtop⟩ | ⟨rfl, hdnone⟩
    · exact absurd hd (hcnone d)
    · rfl

/-- Texts that carry the same classes have the same class. -/
theorem IsClassOf.congr {text' : List Char} (h : IsClassOf text c)
    (hcarries : ∀ d, Carries text d ↔ Carries text' d) : IsClassOf text' c := by
  simpa only [IsClassOf, hcarries] using h

/-! ## The highest rank -/

theorem rank_join (a b : SecurityClass) : (join a b).rank = max a.rank b.rank := by
  unfold join
  split <;> omega

theorem join_openAccess (a : SecurityClass) : join .openAccess a = a :=
  if_pos (Nat.zero_le a.rank)

theorem rank_foldl_join (classes : List SecurityClass) (c : SecurityClass) :
    (classes.foldl join c).rank = max c.rank (classes.foldl join .openAccess).rank := by
  induction classes generalizing c with
  | nil => exact (Nat.max_zero c.rank).symm
  | cons d rest ih =>
      rw [List.foldl_cons, List.foldl_cons, join_openAccess, ih (join c d), ih d, rank_join,
        Nat.max_assoc]

theorem foldl_join_mem (classes : List SecurityClass) (c : SecurityClass) :
    classes.foldl join c = c ∨ classes.foldl join c ∈ classes := by
  induction classes generalizing c with
  | nil => exact Or.inl rfl
  | cons d rest ih =>
      rw [List.foldl_cons]
      rcases ih (join c d) with hfirst | hlater
      · rw [hfirst]
        unfold join
        split
        · exact Or.inr (List.mem_cons_self ..)
        · exact Or.inl rfl
      · exact Or.inr (List.mem_cons_of_mem _ hlater)

theorem rank_le_foldl_join {classes : List SecurityClass} (hd : d ∈ classes) :
    d.rank ≤ (classes.foldl join .openAccess).rank := by
  induction classes with
  | nil => contradiction
  | cons first rest ih =>
      rw [List.foldl_cons, join_openAccess, rank_foldl_join]
      rcases List.mem_cons.mp hd with rfl | hlater
      · exact Nat.le_max_left _ _
      · exact Nat.le_trans (ih hlater) (Nat.le_max_right _ _)

theorem isClassOf_ofCapabilities (s : String) : IsClassOf s.toList (ofCapabilities s) := by
  have hcarries : ∀ d, Carries s.toList d ↔
      d ∈ (s.toList.splitOnP isSeparator).filterMap ofToken? := by
    intro d
    rw [(written_splitOnP s.toList).carries_iff, List.mem_filterMap]
    simp only [ofToken?_eq_some_iff]
  unfold ofCapabilities
  generalize (s.toList.splitOnP isSeparator).filterMap ofToken? = classes at hcarries
  rcases foldl_join_mem classes .openAccess with hopen | hmem
  · -- a class that a token names ranks above the open one
    refine Or.inr ⟨hopen, fun d hd => ?_⟩
    have hle := rank_le_foldl_join ((hcarries d).mp hd)
    obtain ⟨run, -, hnames⟩ := hd
    rw [hopen] at hle
    exact absurd hle (Nat.not_le.mpr hnames.rank_pos)
  · exact Or.inl ⟨(hcarries _).mpr hmem, fun d hd => rank_le_foldl_join ((hcarries d).mp hd)⟩

/-- The class of a text is the one that its tokens make it. -/
theorem ofCapabilities_eq_iff {s : String} : ofCapabilities s = c ↔ IsClassOf s.toList c := by
  constructor
  · rintro rfl
    exact isClassOf_ofCapabilities s
  · exact fun h => (isClassOf_ofCapabilities s).unique h

/-- A separator joins the classes of the texts on its two sides. -/
theorem rank_ofCapabilities_append (a b : String) {sep : Char} (hsep : isSeparator sep = true) :
    (ofCapabilities (a ++ sep.toString ++ b)).rank =
      max (ofCapabilities a).rank (ofCapabilities b).rank := by
  have htext : (a ++ sep.toString ++ b).toList = a.toList ++ sep :: b.toList := by
    simp
  simp only [ofCapabilities]
  rw [htext, List.splitOnP_append_cons _ _ hsep, List.filterMap_append, List.foldl_append,
    rank_foldl_join]

/-- Texts whose tokens are, but for the case of letters, the same words have the same class. -/
theorem ofCapabilities_eq_of_written {tokens' : List (List Char)} {s s' : String}
    (hs : Written tokens s.toList) (hs' : Written tokens' s'.toList)
    (hsome : ∀ token ∈ tokens, (∃ c, Names token c) → ∃ token' ∈ tokens', SameLetters token token')
    (hsome' : ∀ token' ∈ tokens', (∃ c, Names token' c) →
      ∃ token ∈ tokens, SameLetters token' token) : ofCapabilities s = ofCapabilities s' := by
  refine ofCapabilities_eq_iff.mpr ((isClassOf_ofCapabilities s').congr fun d => ?_)
  rw [hs.carries_iff, hs'.carries_iff]
  constructor
  · rintro ⟨token', hmem, hnames⟩
    obtain ⟨token, hother, hsame⟩ := hsome' token' hmem ⟨d, hnames⟩
    exact ⟨token, hother, hnames.of_sameLetters hsame⟩
  · rintro ⟨token, hmem, hnames⟩
    obtain ⟨token', hother, hsame⟩ := hsome token hmem ⟨d, hnames⟩
    exact ⟨token', hother, hnames.of_sameLetters hsame⟩


theorem isSeparator_iff {sep : Char} : isSeparator sep = true ↔
    sep ∈ ['[', ']', '-', '+', '/', ','] ∨ Text.isBlank sep = true := by
  simp [isSeparator, or_assoc]

end

/-- The class of a capability text is the highest-ranking one that a whole token names, letters of
either case, and the open class where no token names any; tokens are the longest runs of characters
without a bracket, dash, plus, slash, comma or blank.  So a separator joins the classes of the texts
on its two sides, and two texts have the same class if the tokens of each that name a class are,
but for the case of letters, among the tokens of the other: their order and number, what separates
them and all other tokens make no difference. -/
theorem tokens_decide_class :
    ([.wep, .sae, .psk, .eapSuiteB, .eap, .owe, .openAccess] : List SecurityClass).Pairwise
      (fun c d => d.rank < c.rank) ∧
    (∀ sep, isSeparator sep = true ↔
      sep ∈ ['[', ']', '-', '+', '/', ','] ∨ Text.isBlank sep = true) ∧
    (∀ s c, ofCapabilities s = c ↔ IsClassOf s.toList c) ∧
    (∀ a b sep, isSeparator sep = true →
      (ofCapabilities (a ++ sep.toString ++ b)).rank =
        max (ofCapabilities a).rank (ofCapabilities b).rank) ∧
    ∀ tokens tokens' (s s' : String), Written tokens s.toList → Written tokens' s'.toList →
      (∀ token ∈ tokens, (∃ c, Names token c) →
        ∃ token' ∈ tokens', SameLetters token token') →
      (∀ token' ∈ tokens', (∃ c, Names token' c) →
        ∃ token ∈ tokens, SameLetters token' token) →
      ofCapabilities s = ofCapabilities s' := by
  refine ⟨by decide, fun _ => isSeparator_iff, fun _ _ => ofCapabilities_eq_iff, ?_, ?_⟩
  · exact fun a b _ hsep => rank_ofCapabilities_append a b hsep
  · exact fun _ _ _ _ => ofCapabilities_eq_of_written

/-- A network in transition mode, and its tokens in another order and case, with a blank before a
token that only begins like a word. -/
theorem tokens_decide_class_transition :
    let tokens := ["", "RSN", "PSK", "SAE", ""].map String.toList
    let tokens' := ["sae", "psk", "", "PSKX"].map String.toList
    isSeparator '+' = true ∧ (ofCapabilities "[RSN-PSK+SAE]").rank = 5 ∧
    Written tokens "[RSN-PSK+SAE]".toList ∧ Written tokens' "sae psk, PSKX".toList ∧
    ofCapabilities "[RSN-PSK+SAE]" = ofCapabilities "sae psk, PSKX" := by
  intro tokens tokens'
  obtain ⟨-, -, -, hjoin, hsame⟩ := tokens_decide_class
  have hsep : isSeparator '+' = true := by decide
  have hwritten : Written tokens "[RSN-PSK+SAE]".toList := by
    have hsplit : "[RSN-PSK+SAE]".toList.splitOnP isSeparator = tokens := by decide
    exact hsplit ▸ written_splitOnP _
  have hwritten' : Written tokens' "sae psk, PSKX".toList := by
    have hsplit : "sae psk, PSKX".toList.splitOnP isSeparator = tokens' := by decide
    exact hsplit ▸ written_splitOnP _
  refine ⟨hsep, ?_, hwritten, hwritten', hsame _ _ _ _ hwritten hwritten' ?_ ?_⟩
  · exact (hjoin "[RSN-PSK" "SAE]" '+' hsep).trans (by decide)
  · simp only [exists_names_iff]
    decide
  · simp only [exists_names_iff]
    decide

end ScanRoster.SecurityClass
