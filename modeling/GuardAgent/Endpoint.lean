import GuardAgent.Config

/-!
# The normal form of the endpoint

What `validate` makes of the endpoint. Each part of the end is removed once, so what was
before it may need to be removed again: a stored endpoint is in the normal form that a
second validation keeps exactly when nothing of the kind was uncovered
(`AgentConfig.validate_normal`).
-/

namespace GuardAgent

/-- Two lists cut where the elements at the end stop to satisfy a test. -/
theorem rdropWhile_append {α : Type} {test : α → Bool} {kept ending : List α}
    (all : ∀ c ∈ ending, test c = true) (stops : ∀ c ∈ kept.getLast?, test c = false) :
    (kept ++ ending).rdropWhile test = kept := by
  induction ending using List.reverseRecOn with
  | nil =>
      rw [List.append_nil, List.rdropWhile_eq_self_iff]
      intro filled
      rw [stops _ (List.getLast?_eq_getLast_of_ne_nil filled)]
      exact Bool.false_ne_true
  | append_singleton ending c ih =>
      rw [← List.append_assoc, List.rdropWhile_concat_pos _ _ _ (all c (by
        rw [List.mem_append, List.mem_singleton]
        exact .inr rfl))]
      exact ih fun d member => all d (List.mem_append_left _ member)

/-- What is dropped at the end satisfies the test, and the last of what is left does not. -/
theorem exists_rdropWhile {α : Type} (test : α → Bool) (text : List α) :
    ∃ ending, text = text.rdropWhile test ++ ending ∧ (∀ c ∈ ending, test c = true) ∧
      ∀ c ∈ (text.rdropWhile test).getLast?, test c = false := by
  refine ⟨text.rtakeWhile test, (List.rdropWhile_append_rtakeWhile ..).symm,
    fun c => List.mem_rtakeWhile_imp, fun c last => ?_⟩
  obtain ⟨filled, rfl⟩ := List.mem_getLast?_eq_getLast last
  exact Bool.eq_false_iff.mpr (List.rdropWhile_last_not test text filled)

/-- The suffix of endpoints of former versions. -/
def legacySuffix : List Char := "/api/v1".toList

def EndsInSpace (text : List Char) : Prop :=
  ∃ c ∈ text.getLast?, isWhitespace c = true

instance (text : List Char) : Decidable (EndsInSpace text) :=
  decidable_of_iff (text.getLast?.any isWhitespace = true) (Option.any_eq_true ..)

/-- The text is slashes. -/
def Slashes (text : List Char) : Prop := ∀ c ∈ text, c = '/'

/-- After the scheme there is something before the next slash. -/
def HasHost (endpoint : String) : Prop :=
  ∃ c rest, c ≠ '/' ∧ (endpoint.toList = "http://".toList ++ c :: rest ∨
    endpoint.toList = "https://".toList ++ c :: rest)

/-- What has a host is not empty. -/
theorem HasHost.ne_empty {endpoint : String} (host : HasHost endpoint) : endpoint ≠ "" := by
  rintro rfl
  obtain ⟨c, rest, -, http | https⟩ := host
  · cases http
  · cases https

/-- An endpoint with a scheme and a host, with nothing that is to be removed. -/
structure NormalEndpoint (endpoint : String) : Prop where
  host : HasHost endpoint
  trimmed : trim endpoint = endpoint
  slashless : endpoint.toList.getLast? ≠ some '/'
  unversioned : ¬ legacySuffix <:+ endpoint.toList

/-- Before the slashes at the end there is whitespace; or before a legacy suffix, slashes
aside, there is whitespace or another one. -/
inductive Layered (text : List Char) : Prop where
  | spaced (rest slashes : List Char) : text = rest ++ slashes → Slashes slashes →
      EndsInSpace rest → Layered text
  | versioned (rest slashes slashes' : List Char) :
      text = rest ++ slashes ++ legacySuffix ++ slashes' → Slashes slashes → Slashes slashes' →
      EndsInSpace rest ∨ legacySuffix <:+ rest → Layered text

/-- What is left of a trimmed endpoint. -/
def strippedEnd (text : List Char) : List Char :=
  let slashless := text.rdropWhile (· == '/')
  if legacySuffix <:+ slashless then
    (slashless.take (slashless.length - legacySuffix.length)).rdropWhile (· == '/')
  else slashless

/-- Slashes are slashes one by one. -/
theorem Slashes.all {text : List Char} (slashes : Slashes text) :
    ∀ c ∈ text, (c == '/') = true := fun c member => beq_iff_eq.mpr (slashes c member)

/-- A text that does not end in a slash stops the stripping of slashes. -/
theorem stops_of_ne {text : List Char} (last : text.getLast? ≠ some '/') :
    ∀ c ∈ text.getLast?, (c == '/') = false := by
  intro c member
  rw [beq_eq_false_iff_ne]
  rintro rfl
  exact last member

/-- What ends in whitespace ends in no visible character. -/
theorem EndsInSpace.last_ne {text : List Char} (spaced : EndsInSpace text) {c : Char}
    (visible : isWhitespace c = false) : text.getLast? ≠ some c := by
  obtain ⟨d, last, space⟩ := spaced
  intro last'
  obtain rfl : d = c := Option.some.inj (last.symm.trans last')
  exact Bool.false_ne_true (visible.symm.trans space)

/-- The legacy suffix ends in its version. -/
theorem getLast?_of_legacySuffix {text : List Char} (versioned : legacySuffix <:+ text) :
    text.getLast? = some '1' := by
  obtain ⟨rest, rfl⟩ := versioned
  exact List.getLast?_append_of_ne_nil _ (by decide)

/-- Without a legacy suffix only slashes are stripped. -/
theorem strippedEnd_plain {rest slashes : List Char} (all : Slashes slashes)
    (last : rest.getLast? ≠ some '/') (plain : ¬ legacySuffix <:+ rest) :
    strippedEnd (rest ++ slashes) = rest := by
  rw [strippedEnd, rdropWhile_append all.all (stops_of_ne last)]
  exact if_neg plain

/-- A legacy suffix is stripped with the slashes around it. -/
theorem strippedEnd_legacy {rest slashes slashes' : List Char} (all : Slashes slashes)
    (all' : Slashes slashes') (last : rest.getLast? ≠ some '/') :
    strippedEnd (rest ++ slashes ++ legacySuffix ++ slashes') = rest := by
  have versioned : legacySuffix <:+ rest ++ slashes ++ legacySuffix := List.suffix_append _ _
  have last' : (rest ++ slashes ++ legacySuffix).getLast? ≠ some '/' := by
    rw [getLast?_of_legacySuffix versioned]
    decide
  rw [strippedEnd, rdropWhile_append all'.all (stops_of_ne last')]
  simp only [if_pos versioned, List.length_append, Nat.add_sub_cancel]
  rw [← List.length_append, List.take_left, rdropWhile_append all.all (stops_of_ne last)]

/-- What was stripped from the end. -/
theorem strippedEnd_cases (text : List Char) :
    (strippedEnd text).getLast? ≠ some '/' ∧
      ((∃ slashes, text = strippedEnd text ++ slashes ∧ Slashes slashes ∧
          ¬ legacySuffix <:+ strippedEnd text) ∨
        ∃ slashes slashes', text = strippedEnd text ++ slashes ++ legacySuffix ++ slashes' ∧
          Slashes slashes ∧ Slashes slashes') := by
  obtain ⟨slashes, split, all, last⟩ := exists_rdropWhile (· == '/') text
  have all' : Slashes slashes := fun c member => beq_iff_eq.mp (all c member)
  generalize text.rdropWhile (· == '/') = slashless at split last
  have last' : slashless.getLast? ≠ some '/' := fun same =>
    absurd (last '/' same) (by decide)
  by_cases versioned : legacySuffix <:+ slashless
  · obtain ⟨front, rfl⟩ := versioned
    obtain ⟨inner, split', inside, stops⟩ := exists_rdropWhile (· == '/') front
    generalize front.rdropWhile (· == '/') = rest at split' stops
    have inside' : Slashes inner := fun c member => beq_iff_eq.mp (inside c member)
    have stops' : rest.getLast? ≠ some '/' := fun same => absurd (stops '/' same) (by decide)
    rw [split'] at split
    have stripped : strippedEnd text = rest := by
      rw [split]
      exact strippedEnd_legacy inside' all' stops'
    rw [stripped]
    exact ⟨stops', .inr ⟨inner, slashes, split, inside', all'⟩⟩
  · have stripped : strippedEnd text = slashless := by
      rw [split]
      exact strippedEnd_plain all' last' versioned
    rw [stripped]
    exact ⟨last', .inl ⟨slashes, split, all', versioned⟩⟩

/-- What one pass uncovers. -/
theorem layered_iff (text : List Char) :
    Layered text ↔ EndsInSpace (strippedEnd text) ∨ legacySuffix <:+ strippedEnd text := by
  constructor
  · intro layered
    cases layered with
    | spaced rest slashes split all spaced =>
        have plain : ¬ legacySuffix <:+ rest := fun versioned =>
          spaced.last_ne (by decide) (getLast?_of_legacySuffix versioned)
        rw [split, strippedEnd_plain all (spaced.last_ne (by decide)) plain]
        exact .inl spaced
    | versioned rest slashes slashes' split all all' uncovered =>
        have last : rest.getLast? ≠ some '/' := by
          rcases uncovered with spaced | versioned
          · exact spaced.last_ne (by decide)
          · rw [getLast?_of_legacySuffix versioned]
            decide
        rw [split, strippedEnd_legacy all all' last]
        exact uncovered
  · intro uncovered
    obtain ⟨-, ⟨slashes, split, all, plain⟩ | ⟨slashes, slashes', split, all, all'⟩⟩ :=
      strippedEnd_cases text
    · exact .spaced _ slashes split all (uncovered.resolve_right plain)
    · exact .versioned _ slashes slashes' split all all' uncovered

instance (text : List Char) : Decidable (Layered text) :=
  decidable_of_iff _ (layered_iff text).symm

/-- A trimmed text does not end in whitespace. -/
theorem not_endsInSpace_trim (text : String) : ¬ EndsInSpace (trim text).toList := by
  rintro ⟨c, last, space⟩
  rw [trim, String.toList_ofList] at last
  obtain ⟨-, -, -, stops⟩ := exists_rdropWhile isWhitespace (text.toList.dropWhile isWhitespace)
  exact Bool.false_ne_true ((stops c last).symm.trans space)

/-- A text without whitespace at its ends is trimmed already. -/
theorem trim_eq_self {text : String} {c : Char} {rest : List Char}
    (first : text.toList = c :: rest) (visible : isWhitespace c = false)
    (last : ¬ EndsInSpace text.toList) : trim text = text := by
  have stops : ∀ d ∈ text.toList.getLast?, isWhitespace d = false := fun d member =>
    Bool.eq_false_iff.mpr fun space => last ⟨d, member, space⟩
  have kept := @rdropWhile_append _ isWhitespace text.toList [] (fun _ => nofun) stops
  rw [List.append_nil] at kept
  have start : text.toList.dropWhile isWhitespace = text.toList := by
    rw [first]
    exact List.dropWhile_cons_of_neg (Bool.eq_false_iff.mp visible)
  rw [trim, start, kept, String.ofList_toList]

/-- The problems `normalize_endpoint` finds in an endpoint that is not empty. -/
def endpointProblems (endpoint : String) : List String :=
  if !startsWith endpoint "http://" && !startsWith endpoint "https://" then
    ["endpoint must start with http:// or https://"]
  else
    let host := (afterOnce "://".toList endpoint.toList).getD []
    if host.isEmpty || host.head? == some '/' then ["endpoint must include a host"] else []

/-- A legacy suffix is stripped off. -/
theorem stripSuffix_legacy {text : String} (versioned : legacySuffix <:+ text.toList) :
    stripSuffix text "/api/v1" =
      some (String.ofList (text.toList.take (text.toList.length - legacySuffix.length))) :=
  if_pos (List.isSuffixOf_iff_suffix.mpr versioned)

/-- Without a legacy suffix nothing is stripped off. -/
theorem stripSuffix_plain {text : String} (plain : ¬ legacySuffix <:+ text.toList) :
    stripSuffix text "/api/v1" = none :=
  if_neg fun found => plain (List.isSuffixOf_iff_suffix.mp found)

/-- With a scheme, only the host may be missing. -/
theorem endpointProblems_eq {endpoint : String} {rest : List Char}
    (schemed : endpoint.toList = "http://".toList ++ rest ∨
      endpoint.toList = "https://".toList ++ rest) :
    endpointProblems endpoint =
      if rest.isEmpty || rest.head? == some '/' then ["endpoint must include a host"] else [] := by
  have starts : (!startsWith endpoint "http://" && !startsWith endpoint "https://") = false := by
    unfold startsWith
    rcases schemed with http | https
    · rw [http, List.isPrefixOf_iff_prefix.mpr (List.prefix_append _ _)]
      rfl
    · rw [https, List.isPrefixOf_iff_prefix.mpr (List.prefix_append _ _), Bool.not_true,
        Bool.and_false]
  have after : afterOnce "://".toList endpoint.toList = some rest := by
    rcases schemed with http | https
    · rw [http]
      rfl
    · rw [https]
      rfl
  unfold endpointProblems
  simp only [starts, after, Bool.false_eq_true, ↓reduceIte, Option.getD_some]

/-- An endpoint has no problems exactly if it has a host. -/
theorem endpointProblems_eq_nil (endpoint : String) :
    endpointProblems endpoint = [] ↔ HasHost endpoint := by
  constructor
  · intro none
    have schemed : ∃ rest, endpoint.toList = "http://".toList ++ rest ∨
        endpoint.toList = "https://".toList ++ rest := by
      by_contra other
      have starts : (!startsWith endpoint "http://" && !startsWith endpoint "https://") =
          true := by
        rw [Bool.and_eq_true, Bool.not_eq_true', Bool.not_eq_true', Bool.eq_false_iff,
          Bool.eq_false_iff]
        constructor
        · rintro http
          obtain ⟨rest, rfl⟩ := startsWith_iff.mp http
          exact other ⟨rest.toList, .inl String.toList_append⟩
        · rintro https
          obtain ⟨rest, rfl⟩ := startsWith_iff.mp https
          exact other ⟨rest.toList, .inr String.toList_append⟩
      rw [endpointProblems, if_pos starts] at none
      cases none
    obtain ⟨rest, schemed⟩ := schemed
    rw [endpointProblems_eq schemed] at none
    cases rest with
    | nil => cases none
    | cons c rest =>
        refine ⟨c, rest, ?_, schemed⟩
        rintro rfl
        cases none
  · rintro ⟨c, rest, other, schemed⟩
    rw [endpointProblems_eq schemed, List.isEmpty_cons, Bool.false_or, List.head?_cons, if_neg]
    rw [beq_iff_eq, Option.some_inj]
    exact other

namespace AgentConfig

/-- An endpoint that is not blank is trimmed and stripped. -/
theorem normalizeEndpoint_of_filled (config : AgentConfig) (filled : trim config.endpoint ≠ "") :
    config.normalizeEndpoint =
      ({ config with endpoint := String.ofList (strippedEnd (trim config.endpoint).toList) },
        endpointProblems (String.ofList (strippedEnd (trim config.endpoint).toList))) := by
  have nonempty : (trim config.endpoint).isEmpty = false :=
    Bool.eq_false_iff.mpr fun empty => filled (String.isEmpty_iff.mp empty)
  have slashless : (trimEndMatches (trim config.endpoint) '/').toList =
      (trim config.endpoint).toList.rdropWhile (· == '/') := String.toList_ofList
  unfold normalizeEndpoint strippedEnd
  rw [← slashless]
  simp only [nonempty, Bool.false_eq_true, ↓reduceIte]
  by_cases versioned : legacySuffix <:+ (trimEndMatches (trim config.endpoint) '/').toList
  · simp only [stripSuffix_legacy versioned, if_pos versioned]
    rw [trimEndMatches, String.toList_ofList]
    rfl
  · simp only [stripSuffix_plain versioned, if_neg versioned, String.ofList_toList]
    rfl

/-- What `validate` checks besides the endpoint, which does not depend on it. -/
def otherProblems (config : AgentConfig) : List String :=
  (if config.apiKey.utf8ByteSize < minApiKeyLen then
    [s!"api_key must be at least {minApiKeyLen} characters long"] else []) ++
  config.validateNumeric ++ config.validateOptional

/-- What `validate` does with the endpoint that normalizing leaves. -/
theorem validate_of_normalize {config : AgentConfig} {stored : String} {problems : List String}
    (normalized : config.normalizeEndpoint = ({ config with endpoint := stored }, problems)) :
    config.validate.1 = { config with endpoint := stored } ∧
      (config.validate.2 = .ok () ↔ problems = [] ∧ config.otherProblems = []) := by
  have numeric : ({ config with endpoint := stored } : AgentConfig).validateNumeric =
      config.validateNumeric := rfl
  have optional : ({ config with endpoint := stored } : AgentConfig).validateOptional =
      config.validateOptional := rfl
  unfold validate otherProblems
  simp only [normalized, numeric, optional]
  generalize (if config.apiKey.utf8ByteSize < minApiKeyLen then
    [s!"api_key must be at least {minApiKeyLen} characters long"] else []) = key
  refine ⟨trivial, ?_⟩
  split
  case isTrue none =>
    rw [List.isEmpty_iff] at none
    simp only [List.append_eq_nil_iff] at none ⊢
    exact iff_of_true trivial ⟨none.1.1.2, ⟨none.1.1.1, none.1.2⟩, none.2⟩
  case isFalse some =>
    rw [List.isEmpty_iff] at some
    simp only [List.append_eq_nil_iff] at some ⊢
    exact iff_of_false nofun fun ⟨endpoint, ⟨key, numeric⟩, optional⟩ =>
      some ⟨⟨⟨key, endpoint⟩, numeric⟩, optional⟩

/-- A valid endpoint is not empty. -/
theorem filled_of_valid {config : AgentConfig} (valid : config.validate.2 = .ok ()) :
    trim config.endpoint ≠ "" := by
  intro empty
  have refused : config.normalizeEndpoint =
      ({ config with endpoint := trim config.endpoint }, ["endpoint must not be empty"]) :=
    if_pos (String.isEmpty_iff.mpr empty)
  cases ((validate_of_normalize refused).2.mp valid).1

/-- **The normal form of the endpoint.** Of a configuration that is found valid, the stored
endpoint is in normal form and a second validation accepts and keeps it exactly when nothing
was uncovered that should have been removed. -/
theorem validate_normal (config : AgentConfig) (valid : config.validate.2 = .ok ()) :
    (NormalEndpoint config.validate.1.endpoint ∧
      config.validate.1.validate = (config.validate.1, .ok ())) ↔
        ¬ Layered (trim config.endpoint).toList := by
  obtain ⟨result, outcome⟩ := validate_of_normalize
    (normalizeEndpoint_of_filled config (filled_of_valid valid))
  obtain ⟨problemless, others⟩ := outcome.mp valid
  rw [layered_iff, result]
  have stripped := strippedEnd_cases (trim config.endpoint).toList
  generalize strippedEnd (trim config.endpoint).toList = stored at *
  have listed : (String.ofList stored).toList = stored := String.toList_ofList
  have host := (endpointProblems_eq_nil _).mp problemless
  constructor
  · rintro ⟨normal, -⟩ (spaced | versioned)
    · refine not_endsInSpace_trim (String.ofList stored) ?_
      rwa [normal.trimmed, listed]
    · exact normal.unversioned (listed.symm ▸ versioned)
  · intro covered
    rw [not_or] at covered
    obtain ⟨unspaced, unversioned⟩ := covered
    have trimmed : trim (String.ofList stored) = String.ofList stored := by
      obtain ⟨c, rest, -, http | https⟩ := host
      · exact trim_eq_self http (by decide) (listed.symm ▸ unspaced)
      · exact trim_eq_self https (by decide) (listed.symm ▸ unspaced)
    refine ⟨⟨host, trimmed, listed.symm ▸ stripped.1, listed.symm ▸ unversioned⟩, ?_⟩
    have kept := @strippedEnd_plain stored [] (fun _ => nofun) stripped.1 unversioned
    rw [List.append_nil] at kept
    have filled : trim (String.ofList stored) ≠ "" := by
      rw [trimmed]
      exact host.ne_empty
    have again :=
      normalizeEndpoint_of_filled { config with endpoint := String.ofList stored } filled
    simp only [trimmed, listed, kept, problemless] at again
    obtain ⟨result', outcome'⟩ := validate_of_normalize again
    exact Prod.ext result' (outcome'.mpr ⟨rfl, others⟩)

/-- A legacy suffix is stripped, and the stored endpoint is kept. -/
theorem validate_normal_legacy :
    let config :=
      { new "test-api-key-1234" with endpoint := " https://api.example.com//api/v1/ " }
    NormalEndpoint config.validate.1.endpoint ∧
      config.validate.1.validate = (config.validate.1, .ok ()) := by
  intro config
  have valid : config.validate.2 = .ok () := by decide +kernel
  have trimmed : (trim config.endpoint).toList = "https://api.example.com//api/v1/".toList := by
    decide +kernel
  have stripped : strippedEnd "https://api.example.com//api/v1/".toList =
      "https://api.example.com".toList := by decide +kernel
  have plain : ¬ Layered (trim config.endpoint).toList := by
    rw [trimmed, layered_iff, stripped]
    decide
  exact (validate_normal config valid).mpr plain

/-- A second suffix is stored, and stripped by a second validation; whitespace that is stored
may leave an endpoint that the second validation refuses. -/
theorem validate_layered :
    let suffixed :=
      { new "test-api-key-1234" with endpoint := "https://api.example.com/api/v1/api/v1" }
    let spaced := { new "test-api-key-1234" with endpoint := "https:// /" }
    (suffixed.validate.2 = .ok () ∧ ¬ NormalEndpoint suffixed.validate.1.endpoint ∧
      suffixed.validate.1.endpoint = "https://api.example.com/api/v1" ∧
      suffixed.validate.1.validate.1.endpoint = "https://api.example.com") ∧
    spaced.validate.2 = .ok () ∧ spaced.validate.1.endpoint = "https:// " ∧
      spaced.validate.1.validate.2 ≠ .ok () := by
  intro suffixed spaced
  have kept : suffixed.validate.1.endpoint = "https://api.example.com/api/v1" := by
    decide +kernel
  have abnormal : ¬ NormalEndpoint suffixed.validate.1.endpoint := fun normal =>
    normal.unversioned (by rw [kept]; decide +kernel)
  exact ⟨⟨by decide +kernel, abnormal, kept, by decide +kernel⟩, by decide +kernel,
    by decide +kernel, by decide +kernel⟩

end AgentConfig

end GuardAgent
