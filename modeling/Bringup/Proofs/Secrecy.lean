import Bringup.Proofs.Rules
import Mathlib.Data.List.TakeDrop

namespace Bringup

/-! What a report gives away of a URL.

The scheme of a URL is settled by the text before the first colon, through trimming, the removal
of tabs and line breaks and the folding of letters (`Url.scheme?_congr`). A complaint about a URL
hence tells of the text behind that colon only whether it can be read and what is wrong with it,
and so does the report on a whole configuration (`Config.checked_discreet`). -/

/-! ## Up to a character that stops -/

section

variable {α : Type} {proceeds : α → Bool} {stop : α} (stops : proceeds stop = false)

include stops

theorem dropWhile_append_stop (before after : List α) :
    (before ++ stop :: after).dropWhile proceeds =
      before.dropWhile proceeds ++ stop :: after := by
  rw [List.dropWhile_append]
  split
  · rename_i passed
    rw [List.isEmpty_iff.mp passed, List.dropWhile_cons_of_neg (by simp [stops])]
    rfl
  · rfl

theorem takeWhile_append_stop (before after : List α) :
    (before ++ stop :: after).takeWhile proceeds = before.takeWhile proceeds := by
  rw [List.takeWhile_append]
  split
  · rename_i passed
    rw [List.takeWhile_cons_of_neg (by simp [stops]), List.append_nil]
    exact ((List.takeWhile_prefix proceeds).eq_of_length passed).symm
  · rfl

end

namespace Url

/-! ## The scheme -/

def scheme? (text : String) : Option String := (splitScheme? (significant text)).map Prod.fst

/-- Two texts agree up to and including their first colon, or neither has a colon. -/
def AgreeToColon (first second : String) : Prop :=
  (':' ∉ first.toList ∧ ':' ∉ second.toList) ∨
    ∃ heading rest other, ':' ∉ heading ∧ first.toList = heading ++ ':' :: rest ∧
      second.toList = heading ++ ':' :: other

/-- Whether a character does not count at either end of a text. -/
def isMargin (character : Char) : Bool := character.toNat ≤ 0x20

def significantHeading (heading : List Char) : List Char :=
  (heading.dropWhile isMargin).filter fun character => !(['\t', '\n', '\r'].contains character)

theorem significant_of_colon {text : String} {heading rest : List Char}
    (parts : text.toList = heading ++ ':' :: rest) :
    ∃ left, significant text = significantHeading heading ++ ':' :: left := by
  have stops : isMargin ':' = false := rfl
  have front : (text.toList.dropWhile isMargin).reverse =
      rest.reverse ++ ':' :: (heading.dropWhile isMargin).reverse := by
    rw [parts, dropWhile_append_stop stops, List.reverse_append, List.reverse_cons,
      List.append_assoc, List.singleton_append]
  change ∃ left, ((text.toList.dropWhile isMargin).reverse.dropWhile isMargin).reverse.filter _ = _
  rw [front, dropWhile_append_stop stops, List.reverse_append, List.reverse_cons,
    List.reverse_reverse, List.append_assoc, List.singleton_append, List.filter_append,
    List.filter_cons_of_pos (by decide)]
  exact ⟨_, rfl⟩

theorem colon_notMem_significantHeading {heading : List Char} (plain : ':' ∉ heading) :
    ':' ∉ significantHeading heading := fun member =>
  plain ((List.dropWhile_sublist _).mem (List.mem_filter.mp member).1)

theorem splitScheme?_of_colon {name : List Char} (plain : ':' ∉ name) (rest : List Char) :
    splitScheme? (name ++ ':' :: rest) =
      ((splitScheme? (name ++ [':'])).map Prod.fst).map fun scheme => (scheme, rest) := by
  have stops : isSchemeCharacter ':' = false := rfl
  unfold splitScheme?
  simp only [List.span_eq_takeWhile_dropWhile, takeWhile_append_stop stops,
    dropWhile_append_stop stops]
  cases List.takeWhile isSchemeCharacter name with
  | nil => rfl
  | cons first taken =>
      cases left : List.dropWhile isSchemeCharacter name with
      | nil =>
          simp only [List.nil_append]
          split <;> rfl
      | cons next left =>
          have other : next ≠ ':' := by
            rintro rfl
            have member : ':' ∈ List.dropWhile isSchemeCharacter name := by
              rw [left]
              exact .head _
            exact plain ((List.dropWhile_sublist _).mem member)
          simp [other]

theorem splitScheme?_of_no_colon {characters : List Char} (plain : ':' ∉ characters) :
    splitScheme? characters = none := by
  unfold splitScheme?
  rw [List.span_eq_takeWhile_dropWhile]
  split
  · rename_i first name rest parts
    have member : ':' ∈ characters.dropWhile isSchemeCharacter := by
      rw [(Prod.mk.inj parts).2]
      exact .head _
    exact absurd ((List.dropWhile_sublist _).mem member) plain
  · rfl

theorem scheme?_of_no_colon {text : String} (plain : ':' ∉ text.toList) : scheme? text = none := by
  have absent : ':' ∉ significant text := by
    intro member
    have kept := (List.mem_filter.mp member).1
    rw [List.mem_reverse] at kept
    have trimmed := (List.dropWhile_sublist _).mem kept
    rw [List.mem_reverse] at trimmed
    exact plain ((List.dropWhile_sublist _).mem trimmed)
  rw [scheme?, splitScheme?_of_no_colon absent]
  rfl

theorem scheme?_congr {first second : String} (agree : AgreeToColon first second) :
    scheme? first = scheme? second := by
  rcases agree with ⟨plain, bare⟩ | ⟨heading, rest, other, plain, parts, otherParts⟩
  · rw [scheme?_of_no_colon plain, scheme?_of_no_colon bare]
  · rcases significant_of_colon parts with ⟨left, significant⟩
    rcases significant_of_colon otherParts with ⟨otherLeft, otherSignificant⟩
    have kept := colon_notMem_significantHeading plain
    rw [scheme?, scheme?, significant, otherSignificant, splitScheme?_of_colon kept left,
      splitScheme?_of_colon kept otherLeft]
    simp only [Option.map_map]
    rfl

/-! ## What is read -/

def fault? (text : String) : Option UrlError :=
  match read text with
  | .error fault => some fault
  | .ok _ => none

/-- Two texts that agree up to the first colon, and both are URLs or both are none for the same
reason. -/
structure Alike (first second : String) : Prop where
  agree : AgreeToColon first second
  fault : fault? first = fault? second

theorem scheme_of_read {text : String} {url : Url} (spelled : read text = .ok url) :
    scheme? text = some url.scheme := by
  unfold read at spelled
  split at spelled
  · cases spelled
  · rename_i scheme rest split
    rw [scheme?, split, scheme_of_readRest spelled]
    rfl

end Url

namespace Validation

theorem urlComplaint?_eq (supported : List String) (text : String) :
    urlComplaint? supported text =
      match Url.fault? text, Url.scheme? text with
      | some fault, _ => some (.invalidUrl fault)
      | none, some scheme =>
          if scheme ∈ supported then none else some (.unsupportedScheme scheme supported)
      | none, none => none := by
  unfold urlComplaint? Url.fault?
  cases spelled : Url.read text with
  | error fault => rfl
  | ok url =>
      rw [Url.scheme_of_read spelled]

theorem urlComplaint?_alike {first second : String} (alike : Url.Alike first second)
    (supported : List String) : urlComplaint? supported first = urlComplaint? supported second := by
  rw [urlComplaint?_eq, urlComplaint?_eq, alike.fault, Url.scheme?_congr alike.agree]

end Validation

namespace Config

/-- Two configurations that differ only in their URLs, each of which is like its counterpart up
to the first colon. -/
structure AlikeBeforeColons (first second : Config) : Prop where
  others : ∀ field, field ∉ [Field.databaseUrl, .databaseTestUrl, .cacheUrl] →
    first.get field = second.get field
  database : Url.Alike first.database.url second.database.url
  testing : Option.Rel Url.Alike first.database.testUrl second.database.testUrl
  cache : Url.Alike first.cache.url second.cache.url

variable {first second : Config}

theorem AlikeBeforeColons.complaint? (alike : first.AlikeBeforeColons second) (field : Field) :
    Validation.complaint? first field = Validation.complaint? second field := by
  cases field with
  | databaseUrl => exact Validation.urlComplaint?_alike alike.database _
  | databaseTestUrl =>
      have pairs := alike.testing
      unfold Validation.complaint?
      generalize first.database.testUrl = url, second.database.testUrl = other at pairs
      cases pairs with
      | none => rfl
      | some pair => exact Validation.urlComplaint?_alike pair _
  | cacheUrl => exact Validation.urlComplaint?_alike alike.cache _
  | serverBindAddress | serverRequestTimeout | databaseMaxConnections | databaseConnectTimeout
  | cacheConnectTimeout | logLevel | logJson | metricsEnabled | metricsAddress =>
      apply complaint?_congr
      intro read rules
      apply alike.others
      cases read <;> first | decide | cases rules

/-- Checking does not give away what follows the colon of a URL, be it a name, a password, a host
or a database: two configurations that differ in nothing else are both accepted, or both are
refused with the same violations and in the same words. -/
theorem checked_discreet (alike : first.AlikeBeforeColons second) :
    first.checked.map (fun _ => ()) = second.checked.map (fun _ => ()) ∧
      first.violations.map Violation.message = second.violations.map Violation.message ∧
      (ConfigError.invalid first.violations).message =
        (ConfigError.invalid second.violations).message := by
  have same : first.violations = second.violations := by
    unfold violations
    simp only [alike.complaint?]
  refine ⟨?_, congrArg _ same, congrArg (fun found => (ConfigError.invalid found).message) same⟩
  unfold checked
  rw [same]
  cases second.violations <;> rfl

def guarded (password : String) : Config where
  database := {
    url := " my\tSQL://root:" ++ password ++ "@localhost/accounts"
    testUrl := some ("postgres://root:" ++ password ++ "@[tests") }
  cache := { url := "redis//" ++ password ++ "@localhost" }

theorem checked_guarded :
    (guarded "hunter2").violations.map Violation.message = [
      "database.url: unsupported scheme 'mysql', expected one of [\"postgres\", \"postgresql\"]",
      "database.test_url: invalid URL: invalid IPv6 address",
      "cache.url: invalid URL: relative URL without a base"] ∧
    (guarded "swordfish").violations.map Violation.message =
      (guarded "hunter2").violations.map Violation.message := by
  have alike : (guarded "swordfish").AlikeBeforeColons (guarded "hunter2") := {
    others := by
      intro field other
      cases field <;> first | rfl | simp at other
    database := ⟨.inr ⟨" my\tSQL".toList, "//root:swordfish@localhost/accounts".toList,
      "//root:hunter2@localhost/accounts".toList, by decide, rfl, rfl⟩, by decide +kernel⟩
    testing := .some ⟨.inr ⟨"postgres".toList, "//root:swordfish@[tests".toList,
      "//root:hunter2@[tests".toList, by decide, rfl, rfl⟩, by decide +kernel⟩
    cache := ⟨.inl ⟨by decide, by decide⟩, by decide +kernel⟩ }
  exact ⟨by decide +kernel, (checked_discreet alike).2.1⟩

end Config

end Bringup
