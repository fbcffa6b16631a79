import BotBindings.Proofs.Phrase.CanonicalText

/-!
# Writing an expression and reading it back

An expression of canonical form is the meaning of its canonical text, so the text determines it.
What a phrase means need not have this form. Read back from its text it stays the same exactly if
every union in it is outermost and no alternative in front of a separator ends in ` or`.
-/

namespace BotBindings

open Phrase

namespace TypeExpr

/-! ## Canonical forms -/

/-- A name that keeps its meaning wherever it is written. -/
structure IsCanonicalName (name : List Char) : Prop extends IsPlainName name where
  ne_nil : name ≠ []
  not_suffix : ¬ " or".toList <:+ name

instance (name : List Char) : Decidable (IsCanonicalName name) :=
  decidable_of_iff (IsPlainName name ∧ name ≠ [] ∧ ¬ " or".toList <:+ name)
    ⟨fun ⟨hplain, hne, hsuffix⟩ => ⟨hplain, hne, hsuffix⟩,
      fun h => ⟨h.toIsPlainName, h.ne_nil, h.not_suffix⟩⟩

/-- The expressions that are found again in their texts: unions are outermost and have at least two
alternatives. -/
inductive IsCanonical : TypeExpr → Prop
  | simple {e : TypeExpr} (h : e.Simple IsCanonicalName) : IsCanonical e
  | union {es : List TypeExpr} (hlength : 2 ≤ es.length)
      (hes : ∀ e ∈ es, e.Simple IsCanonicalName) : IsCanonical (.union es)

private theorem Simple.canonicalChars_ne_nil {e : TypeExpr} (h : e.Simple IsCanonicalName) :
    e.canonicalChars ≠ [] := by
  cases h with
  | scalar scalar => cases scalar <;> decide
  | named hname => exact hname.ne_nil
  | array => simp
  | inputFile => decide
  | chatId => decide

/-- The canonical text of a simple expression with canonical names does not end in the joining word.
-/
theorem Simple.not_suffix {e : TypeExpr} (h : e.Simple IsCanonicalName) :
    ¬ " or".toList <:+ e.canonicalChars := by
  induction h with
  | scalar scalar => cases scalar <;> decide
  | named hname => exact hname.not_suffix
  | array helement ih =>
    rw [canonicalChars_array, List.suffix_cons_iff, List.suffix_cons_iff]
    rintro (h | h | h)
    · exact absurd (List.cons.inj h).1 (by decide)
    · exact absurd (List.cons.inj h).1 (by decide)
    · exact ih h
  | inputFile => decide
  | chatId => decide

private theorem Simple.isUnion_eq {IsName : List Char → Prop} {e : TypeExpr} (h : e.Simple IsName) :
    e.isUnion = false := by
  cases h <;> rfl

/-- A simple expression holds no union at any depth. -/
theorem Simple.unionFree_eq {IsName : List Char → Prop} {e : TypeExpr} (h : e.Simple IsName) :
    e.unionFree = true := by
  induction h with
  | array helement ih => exact ih
  | _ => rfl

private theorem Simple.plain {e : TypeExpr} (h : e.Simple IsCanonicalName) : e.Simple IsPlainName :=
  h.mono fun _ hname => hname.toIsPlainName

private theorem IsCanonical.wellFormed {e : TypeExpr} (h : e.IsCanonical) : e.WellFormed := by
  cases h with
  | simple h => exact h.plain.wellFormed
  | union hlength hes =>
    refine .union hlength (fun a ha => (hes a ha).plain.wellFormed)
      (fun a ha => (hes a ha).isUnion_eq) (fun a ha => ?_) (fun a ha => ?_)
    · exact (hes a (List.mem_of_head? ha)).canonicalChars_ne_nil
    · exact (hes a (List.mem_of_getLast? ha)).canonicalChars_ne_nil

/-! ## Alternatives -/

/-- Normalizing a canonical text reads the characters of the expression. -/
theorem ofPhrase_canonical_eq (e : TypeExpr) : ofPhrase e.canonical = read e.canonicalChars := by
  rw [ofPhrase, canonical, String.toList_ofList]

private theorem joinedChars_alternatives (e : TypeExpr) :
    joinedChars e.alternatives = e.canonicalChars := by
  cases e <;> rfl

/-- An expression that is no union is its own only alternative. -/
theorem alternatives_of_isUnion {e : TypeExpr} (h : e.isUnion = false) : e.alternatives = [e] := by
  cases e <;> first | rfl | cases h

private theorem WellFormed.of_mem_alternatives {e a : TypeExpr} (h : e.WellFormed)
    (ha : a ∈ e.alternatives) : a.WellFormed := by
  cases h with
  | union hlength hes hunion hfirst hlast => exact hes a ha
  | _ =>
    rw [List.mem_singleton.mp ha]
    constructor <;> assumption

private theorem WellFormed.ofAlternatives_eq {e : TypeExpr} (h : e.WellFormed) :
    ofAlternatives e.alternatives = e := by
  cases h with
  | @union es hlength hes hunion hfirst hlast =>
    match es, hlength with
    | _ :: _ :: _, _ => rfl
  | _ => rfl

private theorem alternatives_ofAlternatives {pieces : List (List Char)} (hne : pieces ≠ []) :
    (ofAlternatives (pieces.map alternative)).alternatives = pieces.map alternative := by
  match pieces, hne with
  | [piece], _ => exact alternatives_of_isUnion (isUnion_alternative piece)
  | _ :: _ :: _, _ => rfl

private theorem WellFormed.alternatives_ne_nil {e : TypeExpr} (h : e.WellFormed) : e.alternatives ≠
    [] := by
  cases h with
  | union hlength =>
    rintro rfl
    simp at hlength
  | _ => exact List.cons_ne_nil _ _

/-- Without a union under an array, only a text in front of a separator can spoil the reading. -/
theorem WellFormed.read_eq_iff_of_unionFree {e : TypeExpr} (h : e.WellFormed)
    (hfree : ∀ a ∈ e.alternatives, a.unionFree = true) :
    read e.canonicalChars = e ↔
      ∀ a ∈ e.alternatives.dropLast, ¬ " or".toList <:+ a.canonicalChars := by
  have hes : ∀ a ∈ e.alternatives, a.Simple IsPlainName :=
    fun a ha => (h.of_mem_alternatives ha).simple (hfree a ha)
  have hread := read_joinedChars hes (by rw [joinedChars_alternatives, h.trim_canonicalChars])
  rw [← map_alternative_split_iff hes h.alternatives_ne_nil, ← joinedChars_alternatives, hread]
  constructor
  · intro heq
    rw [← alternatives_ofAlternatives (Text.split_ne_nil _ _), heq]
  · intro heq
    rw [heq, h.ofAlternatives_eq]

/-- An expression of canonical form is what its canonical text means. So two expressions of
canonical form with the same text are equal. -/
theorem ofPhrase_canonical :
    (∀ e : TypeExpr, e.IsCanonical → ofPhrase e.canonical = e) ∧
      ∀ e e' : TypeExpr, e.IsCanonical → e'.IsCanonical → e.canonical = e'.canonical → e = e' := by
  have hread : ∀ e : TypeExpr, e.IsCanonical → ofPhrase e.canonical = e := by
    intro e he
    rw [ofPhrase_canonical_eq]
    have hsimple : ∀ a ∈ e.alternatives, a.Simple IsCanonicalName := by
      cases he with
      | simple h =>
        rw [alternatives_of_isUnion h.isUnion_eq]
        simpa using h
      | union hlength hes => exact hes
    refine (he.wellFormed.read_eq_iff_of_unionFree fun a ha => ?_).mpr fun a ha => ?_
    · exact (hsimple a ha).unionFree_eq
    · exact (hsimple a (List.dropLast_subset _ ha)).not_suffix
  refine ⟨hread, fun e e' he he' heq => ?_⟩
  rw [← hread e he, heq, hread e' he']

/-- Names may start with the word `or` or consist of it. -/
theorem ofPhrase_canonical_or :
    ofPhrase "[][]or X or or or InputFile or int64"
        = .union [.array (.array (.named "or X")), .named "or", .inputFile, .scalar .int64] ∧
      ∀ e : TypeExpr, e.IsCanonical → e.canonical = "[][]or X or or or InputFile or int64" →
        e = .union [.array (.array (.named "or X")), .named "or", .inputFile, .scalar .int64] := by
  have hcanonical : IsCanonical
      (.union [.array (.array (.named "or X")), .named "or", .inputFile, .scalar .int64]) := by
    refine .union (by decide) fun e he => ?_
    simp only [List.mem_cons, List.not_mem_nil, or_false] at he
    rcases he with rfl | rfl | rfl | rfl
    · exact .array (.array (.named (by decide +kernel)))
    · exact .named (by decide +kernel)
    · exact .inputFile
    · exact .scalar .int64
  obtain ⟨hread, hinjective⟩ := ofPhrase_canonical
  exact ⟨hread _ hcanonical, fun e he htext => hinjective e _ he hcanonical htext⟩

/-! ## Unions under arrays -/

/-- Simple expressions with the same joined text as some others, which may hold unions. There are
more of them if there is a union. -/
structure IsFlattening (bs es : List TypeExpr) : Prop where
  simple : ∀ b ∈ bs, b.Simple IsPlainName
  joinedChars_eq : joinedChars bs = joinedChars es
  length_le : es.length ≤ bs.length
  unionFree_of_length : bs.length = es.length → ∀ e ∈ es, e.unionFree = true

private theorem IsFlattening.of_simple {e : TypeExpr} (h : e.Simple IsPlainName) :
    IsFlattening [e] [e] where
  simple := by simpa using h
  joinedChars_eq := rfl
  length_le := Nat.le_refl _
  unionFree_of_length _ := by simpa using h.unionFree_eq

/-- The marker of an array of a union stands in front of the first alternative. -/
theorem IsFlattening.array {b element : TypeExpr} {bs : List TypeExpr}
    (h : IsFlattening (b :: bs) [element]) : IsFlattening (.array b :: bs) [.array element] where
  simple := by
    have hsimple := List.forall_mem_cons.mp h.simple
    exact List.forall_mem_cons.mpr ⟨.array hsimple.1, hsimple.2⟩
  joinedChars_eq := by
    have heq := congrArg ("[]".toList ++ ·) h.joinedChars_eq
    cases bs <;> exact heq
  length_le := h.length_le
  unionFree_of_length hlength := by
    have hfree := h.unionFree_of_length hlength element List.mem_cons_self
    rintro e he
    rwa [List.mem_singleton.mp he]

private theorem joinedChars_append {bs cs : List TypeExpr} (hbs : bs ≠ []) (hcs : cs ≠ []) :
    joinedChars (bs ++ cs) = joinedChars bs ++ " or ".toList ++ joinedChars cs := by
  induction bs with
  | nil => exact absurd rfl hbs
  | cons b bs ih =>
    cases bs with
    | nil =>
      obtain ⟨c, cs, rfl⟩ := List.exists_cons_of_ne_nil hcs
      rfl
    | cons next bs =>
      rw [List.cons_append, List.cons_append, joinedChars_cons_cons, joinedChars_cons_cons,
        ← List.cons_append, ih (by simp)]
      simp only [List.append_assoc]

private theorem IsFlattening.append {bs cs es : List TypeExpr} {e : TypeExpr}
    (hb : IsFlattening bs [e])
    (hc : IsFlattening cs es) (hes : es ≠ []) : IsFlattening (bs ++ cs) (e :: es) where
  simple b hmem := (List.mem_append.mp hmem).elim (hb.simple b) (hc.simple b)
  joinedChars_eq := by
    have hbs : bs ≠ [] := List.length_pos_iff.mp hb.length_le
    have hcs : cs ≠ [] :=
      List.length_pos_iff.mp (Nat.lt_of_lt_of_le (List.length_pos_iff.mpr hes) hc.length_le)
    obtain ⟨next, es, rfl⟩ := List.exists_cons_of_ne_nil hes
    rw [joinedChars_append hbs hcs, hb.joinedChars_eq, hc.joinedChars_eq]
    rfl
  length_le := by
    have hle := hb.length_le
    have hle' := hc.length_le
    simp only [List.length_cons, List.length_append, List.length_nil] at hle ⊢
    omega
  unionFree_of_length hlength := by
    have hle := hb.length_le
    have hle' := hc.length_le
    simp only [List.length_cons, List.length_append, List.length_nil] at hle hlength
    have hfree := hb.unionFree_of_length (by simp only [List.length_cons, List.length_nil]; omega)
    exact List.forall_mem_cons.mpr ⟨hfree e List.mem_cons_self, hc.unionFree_of_length (by omega)⟩

private theorem exists_isFlattening_of_forall {es : List TypeExpr} (hne : es ≠ [])
    (hes : ∀ e ∈ es, ∃ bs, IsFlattening bs [e]) : ∃ bs, IsFlattening bs es := by
  induction es with
  | nil => exact absurd rfl hne
  | cons e es ih =>
    obtain ⟨bs, hb⟩ := hes e List.mem_cons_self
    cases es with
    | nil => exact ⟨bs, hb⟩
    | cons next es =>
      obtain ⟨cs, hc⟩ := ih (by simp) fun a ha => hes a (List.mem_cons_of_mem e ha)
      exact ⟨bs ++ cs, hb.append hc (by simp)⟩

/-- For every well-formed expression there are simple ones whose joined text is its canonical text.
-/
theorem WellFormed.exists_isFlattening {e : TypeExpr} (h : e.WellFormed) :
    ∃ bs, IsFlattening bs [e] := by
  induction h with
  | scalar scalar => exact ⟨_, .of_simple (.scalar scalar)⟩
  | named hname => exact ⟨_, .of_simple (.named hname)⟩
  | array helement ih =>
    obtain ⟨bs, h⟩ := ih
    obtain ⟨b, bs, rfl⟩ := List.exists_cons_of_ne_nil (List.length_pos_iff.mp h.length_le)
    exact ⟨_, h.array⟩
  | @union es hlength hes hunion hfirst hlast ih =>
    obtain ⟨bs, h⟩ := exists_isFlattening_of_forall (by rintro rfl; simp at hlength) ih
    refine ⟨bs, h.simple, h.joinedChars_eq, ?_, fun heq => ?_⟩
    · exact Nat.le_trans (by simp; omega) h.length_le
    · have hle := Nat.le_trans hlength h.length_le
      rw [heq] at hle
      simp at hle
  | inputFile => exact ⟨_, .of_simple .inputFile⟩
  | chatId => exact ⟨_, .of_simple .chatId⟩

private theorem joinedChars_eq_intercalate (es : List TypeExpr) :
    joinedChars es = " or ".toList.intercalate (es.map canonicalChars) := by
  induction es with
  | nil => rfl
  | cons e es ih =>
    cases es with
    | nil => exact List.intercalate_singleton.symm
    | cons next es =>
      rw [joinedChars_cons_cons, ih]
      exact List.intercalate_cons_cons.symm

private theorem length_le_length_split_joinedChars {es : List TypeExpr} (hne : es ≠ []) :
    es.length ≤ (Text.split " or ".toList (joinedChars es)).length := by
  have htexts : es.map canonicalChars ≠ [] := by simpa using hne
  have hlength := Text.length_le_length_split (by decide : " or ".toList ≠ []) htexts []
  rwa [List.nil_append, List.length_map, ← joinedChars_eq_intercalate] at hlength

/-- The canonical text of a well-formed expression is the joined text of simple expressions and is
split at its separators when it is read. -/
theorem WellFormed.exists_read_eq {e : TypeExpr} (h : e.WellFormed) :
    ∃ bs, IsFlattening bs e.alternatives ∧ bs ≠ [] ∧ joinedChars bs = e.canonicalChars ∧
      read e.canonicalChars
        = ofAlternatives ((Text.split " or ".toList (joinedChars bs)).map alternative) := by
  obtain ⟨bs, hbs⟩ := exists_isFlattening_of_forall h.alternatives_ne_nil
    fun a ha => (h.of_mem_alternatives ha).exists_isFlattening
  have htext : joinedChars bs = e.canonicalChars :=
    hbs.joinedChars_eq.trans (joinedChars_alternatives e)
  have hread := read_joinedChars hbs.simple (by rw [htext, h.trim_canonicalChars])
  refine ⟨bs, hbs, ?_, htext, htext ▸ hread⟩
  rintro rfl
  exact h.alternatives_ne_nil (List.length_eq_zero_iff.mp (Nat.le_zero.mp hbs.length_le))

/-- Only an expression without a union under an array can be read back from its text: reading gives
at least as many alternatives as there are simple expressions in the text. -/
theorem WellFormed.unionFree_of_read_eq {e : TypeExpr} (h : e.WellFormed)
    (hread : read e.canonicalChars = e) : ∀ a ∈ e.alternatives, a.unionFree = true := by
  obtain ⟨bs, hbs, hne, -, hpieces⟩ := h.exists_read_eq
  have halternatives := congrArg alternatives (hread.symm.trans hpieces)
  rw [alternatives_ofAlternatives (Text.split_ne_nil _ _)] at halternatives
  refine hbs.unionFree_of_length (Nat.le_antisymm ?_ hbs.length_le)
  calc bs.length ≤ (Text.split " or ".toList (joinedChars bs)).length :=
        length_le_length_split_joinedChars hne
    _ = e.alternatives.length := by rw [halternatives, List.length_map]

private theorem infix_joinedChars_of_suffix {es : List TypeExpr} {e : TypeExpr}
    (he : e ∈ es.dropLast)
    (hsuffix : " or".toList <:+ e.canonicalChars) : " or or ".toList <:+: joinedChars es := by
  induction es with
  | nil => cases he
  | cons first es ih =>
    cases es with
    | nil => cases he
    | cons next es =>
      rw [joinedChars_cons_cons]
      rcases List.mem_cons.mp he with rfl | he
      · obtain ⟨y, hy⟩ := hsuffix
        rw [← hy]
        exact ⟨y, joinedChars (next :: es), by simp⟩
      · exact (ih he).trans (List.suffix_append _ _).isInfix

private theorem canonicalChars_ofAlternatives (es : List TypeExpr) :
    (ofAlternatives es).canonicalChars = joinedChars es := by
  match es with
  | [] => rfl
  | [e] => rfl
  | _ :: _ :: _ => rfl

/-- Without two words `or` in a row the text is kept, also where the expression is not. -/
theorem WellFormed.canonical_ofPhrase_eq {e : TypeExpr} (h : e.WellFormed)
    (hor : ¬ " or or ".toList <:+: e.canonicalChars) :
    (ofPhrase e.canonical).canonical = e.canonical := by
  obtain ⟨bs, hbs, hne, htext, hread⟩ := h.exists_read_eq
  have hends : ∀ b ∈ bs.dropLast, ¬ " or".toList <:+ b.canonicalChars :=
    fun b hb hsuffix => hor (htext ▸ infix_joinedChars_of_suffix hb hsuffix)
  rw [(map_alternative_split_iff hbs.simple hne).mpr hends] at hread
  rw [ofPhrase_canonical_eq, canonical, hread, canonicalChars_ofAlternatives, htext, canonical]

/-- Reading back the canonical text of what a phrase means gives the same expression exactly if no
union lies under an array and no alternative in front of a separator ends in ` or`. The text itself
stays the same if the word `or` is not repeated in it. -/
theorem ofPhrase_canonical_ofPhrase_iff (phrase : String) :
    (ofPhrase (ofPhrase phrase).canonical = ofPhrase phrase ↔
      (∀ a ∈ (ofPhrase phrase).alternatives, a.unionFree = true) ∧
        ∀ a ∈ (ofPhrase phrase).alternatives.dropLast, ¬ " or".toList <:+ a.canonicalChars) ∧
      (¬ " or or ".toList <:+: (ofPhrase phrase).canonicalChars →
        (ofPhrase (ofPhrase phrase).canonical).canonical = (ofPhrase phrase).canonical) := by
  have h : (ofPhrase phrase).WellFormed := wellFormed_read phrase.toList
  refine ⟨?_, h.canonical_ofPhrase_eq⟩
  rw [ofPhrase_canonical_eq]
  constructor
  · intro heq
    have hfree := h.unionFree_of_read_eq heq
    exact ⟨hfree, (h.read_eq_iff_of_unionFree hfree).mp heq⟩
  · rintro ⟨hfree, hends⟩
    exact (h.read_eq_iff_of_unionFree hfree).mpr hends

/-- A union under an array is read back as the outermost union, with the same text. -/
theorem ofPhrase_canonical_ofPhrase_array :
    ofPhrase (ofPhrase "Array of InputMediaAudio or InputMediaPhoto").canonical
        ≠ ofPhrase "Array of InputMediaAudio or InputMediaPhoto" ∧
      (ofPhrase (ofPhrase "Array of InputMediaAudio or InputMediaPhoto").canonical).canonical
        = "[]InputMediaAudio or InputMediaPhoto" := by
  obtain ⟨hsame, htext⟩ :=
    ofPhrase_canonical_ofPhrase_iff "Array of InputMediaAudio or InputMediaPhoto"
  refine ⟨fun heq => ?_, (htext (by decide +kernel)).trans (by decide +kernel)⟩
  exact absurd (hsame.mp heq).1 (by decide +kernel)

/-- Of an alternative that ends in ` or` only the text in front of that word is left. -/
theorem ofPhrase_canonical_ofPhrase_ne :
    (ofPhrase (ofPhrase "Integer or\t or String").canonical).canonical
      ≠ (ofPhrase "Integer or\t or String").canonical := by
  decide +kernel

end TypeExpr

end BotBindings
