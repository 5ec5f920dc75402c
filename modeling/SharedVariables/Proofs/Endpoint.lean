import SharedVariables.Endpoint
import SharedVariables.Proofs.Address.Socket

/-!
# The texts of endpoints

However an endpoint is written, its long form names it again (`Endpoint.text_names_it`). One prefix is
taken off a text, and printing puts one back, so prefixes inside a path or a name do not matter; nor do
blanks, since trimming leaves none at the end, and those behind a prefix are behind the long one, too.
-/

namespace SharedVariables.Endpoint

open Text

variable {word : String} {cs rest : List Char} {e : Endpoint}

theorem behind?_eq_some_iff : behind? word cs = some rest ↔ cs = word.toList ++ rest := by
  rw [behind?, Option.ite_none_right_eq_some, Option.some.injEq, List.isPrefixOf_iff_prefix,
    ← String.length_toList]
  constructor
  · rintro ⟨⟨rest', rfl⟩, rfl⟩
    rw [List.drop_left]
  · rintro rfl
    exact ⟨List.prefix_append _ _, List.drop_left⟩

/-- What may stand behind a prefix: something that does not end with a blank. -/
def Solid (s : String) : Prop := ∃ c ∈ s.toList.getLast?, isBlank c = false

/-- Whether an endpoint has a text that names it. -/
def Nameable : Endpoint → Prop
  | .tcp _ => True
  | .unixPath path => Solid path
  | .abstractName name => Solid name

theorem solid_ofList (written : rest ≠ []) (h : ∀ c ∈ rest.getLast?, isBlank c = false) :
    Solid (String.ofList rest) := by
  have last := List.getLast?_eq_some_getLast written
  exact ⟨rest.getLast written, by rwa [String.toList_ofList], h _ last⟩

theorem Solid.ne_nil {s : String} (h : Solid s) : s.toList ≠ [] := by
  obtain ⟨c, hc, -⟩ := h
  intro none
  rw [none] at hc
  cases hc

theorem solid_behind (h : behind? word cs = some rest) (written : ¬rest.isEmpty)
    (last : ∀ c ∈ cs.getLast?, isBlank c = false) : Solid (String.ofList rest) := by
  have some : rest ≠ [] := fun none => written (by rw [none]; rfl)
  refine solid_ofList some fun c hc => last c ?_
  rw [behind?_eq_some_iff.1 h, List.getLast?_append_of_ne_nil _ some]
  exact hc

/-- What is read from a text that does not end with a blank is nameable. -/
theorem nameable_of_ofChars? (last : ∀ c ∈ cs.getLast?, isBlank c = false)
    (h : ofChars? cs = some e) : e.Nameable := by
  rw [ofChars?] at h
  split at h
  · rename_i path prefixed
    split at h
    · cases h
    · rename_i written
      obtain rfl := Option.some.inj h
      exact solid_behind prefixed written last
  split at h
  · rename_i slash
    obtain rfl := Option.some.inj h
    exact solid_ofList (by rintro rfl; cases slash) last
  split at h
  · rename_i name prefixed
    split at h
    · cases h
    · rename_i written
      obtain rfl := Option.some.inj h
      rcases Option.or_eq_some_iff.1 prefixed with long | ⟨-, short⟩
      · exact solid_behind long written last
      · exact solid_behind short written last
  · obtain ⟨address, -, rfl⟩ := Option.map_eq_some_iff.1 h
    trivial

/-! ## Reading a long form -/

theorem toList_text (e : Endpoint) :
    e.text.toList = match e with
      | .tcp address => "tcp:".toList ++ address.text.toList
      | .unixPath path => "unix:".toList ++ path.toList
      | .abstractName name => "abstract:".toList ++ name.toList := by
  cases e <;> exact String.toList_append ..

/-- Behind a prefix that begins with no blank, what is solid is not trimmed. -/
theorem trimChars_prefixed {word s : String} (first : word.toList.head?.any isBlank = false)
    (written : word.toList ≠ []) (h : Solid s) :
    trimChars (word.toList ++ s.toList) = word.toList ++ s.toList := by
  obtain ⟨last, hlast, solid⟩ := id h
  refine trimChars_eq_self ?_ ?_
  · rw [List.head?_append_of_ne_nil _ written]
    exact fun c hc => (Option.any_eq_false ..).1 first c hc
  · rw [List.getLast?_append_of_ne_nil _ h.ne_nil, Option.mem_def.1 hlast]
    rintro c ⟨⟩
    exact solid

/-- The text of a socket's address ends with a digit. -/
theorem solid_text (a : SocketAddress) : Solid a.text := by
  obtain ⟨front, port, text⟩ := a.exists_toList_text
  have last := List.getLast?_eq_some_getLast (Nat.toDigits_ne_nil (b := 10) (n := port))
  refine ⟨(Nat.toDigits 10 port).getLast Nat.toDigits_ne_nil, ?_, ?_⟩
  · rw [text, List.getLast?_append_of_ne_nil _ Nat.toDigits_ne_nil]
    exact last
  · exact forall_mem_toDigits (P := fun c => isBlank c = false) (by decide) (by decide) _
      (List.getLast_mem _)

theorem trimChars_text (h : e.Nameable) : trimChars e.text.toList = e.text.toList := by
  rw [toList_text]
  cases e with
  | tcp address => exact trimChars_prefixed (by decide) (by decide) (solid_text address)
  | unixPath path => exact trimChars_prefixed (by decide) (by decide) h
  | abstractName name => exact trimChars_prefixed (by decide) (by decide) h

theorem behind?_self (word : String) (rest : List Char) :
    behind? word (word.toList ++ rest) = some rest := behind?_eq_some_iff.2 rfl

/-- No text begins with two words that differ in their first character. -/
theorem behind?_other {word word' : String} (first : word.toList.head? ≠ word'.toList.head?)
    (written : word.toList ≠ []) (written' : word'.toList ≠ []) (rest : List Char) :
    behind? word (word'.toList ++ rest) = none := by
  rw [Option.eq_none_iff_forall_ne_some]
  intro rest' same
  have := congrArg List.head? (behind?_eq_some_iff.1 same)
  rw [List.head?_append_of_ne_nil _ written, List.head?_append_of_ne_nil _ written'] at this
  exact first this.symm

/-- The long form of a nameable endpoint is taken for what it is. -/
theorem ofChars?_text (h : e.Nameable) : ofChars? e.text.toList = some e := by
  rw [toList_text, ofChars?]
  cases e with
  | tcp address =>
    have slash : ("tcp:".toList ++ address.text.toList).head? ≠ some '/' := by simp
    dsimp only
    rw [behind?_other (by decide) (by decide) (by decide), if_neg slash,
      behind?_other (by decide) (by decide) (by decide),
      behind?_other (by decide) (by decide) (by decide), behind?_self]
    simp [SocketAddress.parse?_text]
  | unixPath path =>
    dsimp only
    rw [behind?_self]
    simpa using h.ne_nil
  | abstractName name =>
    have slash : ("abstract:".toList ++ name.toList).head? ≠ some '/' := by simp
    dsimp only
    rw [behind?_other (by decide) (by decide) (by decide), if_neg slash, behind?_self]
    simpa using h.ne_nil

/-! ## Texts that name an endpoint -/

theorem parse_text (h : e.Nameable) : parse e.text = .ok e := by
  rw [parse, trimChars_text h, ofChars?_text h]

theorem nameable_of_parse {s : String} (h : parse s = .ok e) : e.Nameable := by
  rw [parse] at h
  split at h
  · rename_i e' read
    obtain rfl := Except.ok.inj h
    exact nameable_of_ofChars? isBlank_getLast?_trimChars read
  · cases h

/-- Endpoints with paths and names that are empty or end with a blank are those that no text names. -/
theorem exists_parse_iff : (∃ s, parse s = .ok e) ↔ e.Nameable :=
  ⟨fun ⟨_, h⟩ => nameable_of_parse h, fun h => ⟨e.text, parse_text h⟩⟩

/-- Endpoints are read back from their long forms: an endpoint that is named by some text, in
whatever way, is named by the text it is printed as, and so printed as that text again. -/
theorem text_names_it {s : String} (h : parse s = .ok e) :
    parse e.text = .ok e ∧ ∀ e', parse e.text = .ok e' → e'.text = e.text := by
  have again := parse_text (exists_parse_iff.1 ⟨s, h⟩)
  refine ⟨again, fun e' h' => ?_⟩
  rw [again] at h'
  exact congrArg text (Except.ok.inj h').symm

/-- A name may itself look like the text of another endpoint. -/
theorem text_names_it_nested :
    let s := "\t@unix: a@b:tcp:x \n"
    let e := Endpoint.abstractName "unix: a@b:tcp:x"
    parse s = .ok e ∧ parse e.text = .ok e ∧ ∀ e', parse e.text = .ok e' → e'.text = e.text := by
  have read : parse "\t@unix: a@b:tcp:x \n" = .ok (.abstractName "unix: a@b:tcp:x") := by
    decide +kernel
  exact ⟨read, text_names_it read⟩

end SharedVariables.Endpoint
