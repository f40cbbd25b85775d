import GuardrailsOrchestrator.Lib.Collections
import Mathlib.Data.Finset.Image

/-!
# Headers that are passed through

The headers of a client's request that are sent on to other services. The configuration lists the
names that may pass; if it asks for it, an access token that a proxy has put into a header of its
own is sent on as a bearer token.

A header map has the values of every name in the order in which they were added. Names are lower
case: they are changed to it when a request is read.

## Main definitions

* `HeaderName`, `HeaderValue`, `HeaderMap` — headers
* `loadPassthroughHeaders` — the names that may pass, from the configuration
* `filterHeaders`, `rewriteForwardedAccessHeaders` — the headers that are sent on

## Main results

* `filterHeaders_confines` — nothing but the listed names has an influence on what is sent on, or
  is sent on, apart from the bearer token
-/

namespace GuardrailsOrchestrator

/-! ### Header maps -/

/-- The characters of a header name. There are no capital letters among them. -/
def tokenChars : List Char := "!#$%&'*+-.0123456789^_`abcdefghijklmnopqrstuvwxyz|~".toList

structure HeaderName where
  asStr : String
  valid : asStr.toList.all (· ∈ tokenChars) = true
  deriving DecidableEq

/-- The bytes of a header value: all but control characters, and tabs. -/
def isHeaderByte (b : UInt8) : Bool := (32 ≤ b && b ≠ 127) || b == 9

structure HeaderValue where
  asBytes : List UInt8
  valid : asBytes.all isHeaderByte = true
  deriving DecidableEq

/-- A header value, if the bytes are those of one. -/
def HeaderValue.fromMaybeShared (bytes : List UInt8) : Option HeaderValue :=
  if h : bytes.all isHeaderByte = true then some ⟨bytes, h⟩ else none

/-- Headers by name. A name that is there has a value. -/
structure HeaderMap where
  map : IterMap HeaderName (List HeaderValue)
  nonempty : ∀ e ∈ map.entries, e.2 ≠ []

namespace HeaderMap

variable (headers : HeaderMap) (name : HeaderName) (value : HeaderValue)

def empty : HeaderMap := ⟨.empty, by simp [IterMap.empty]⟩

/-- The values of a name. -/
def getAll : List HeaderValue := (headers.map.get? name).getD []

/-- The names. -/
def names : List HeaderName := headers.map.keys

/-- Every value with its name, name by name. -/
def iter : List (HeaderName × HeaderValue) :=
  headers.map.entries.flatMap fun e => e.2.map fun value => (e.1, value)

theorem nonempty_insert {values : List HeaderValue} (h : values ≠ []) :
    ∀ e ∈ (headers.map.insert name values).entries, e.2 ≠ [] := by
  rintro ⟨name', values'⟩ he
  have hget := IterMap.get?_eq_some_iff.mpr he
  rw [IterMap.get?_insert] at hget
  split_ifs at hget
  · rwa [← Option.some.inj hget]
  · exact headers.nonempty _ (IterMap.get?_eq_some_iff.mp hget)

/-- Add a value to those of a name. -/
def append : HeaderMap :=
  ⟨headers.map.insert name (headers.getAll name ++ [value]), headers.nonempty_insert name (by simp)⟩

/-- Replace the values of a name by one. -/
def insert : HeaderMap :=
  ⟨headers.map.insert name [value], headers.nonempty_insert name (by simp)⟩

/-- Delete the values of a name, and return the first of them. -/
def remove : Option HeaderValue × HeaderMap :=
  ((headers.getAll name).head?,
    ⟨headers.map.filter (·.1 ≠ name), fun e he => headers.nonempty e (List.mem_of_mem_filter he)⟩)

/-- Add values to the empty map. -/
def collect (l : List (HeaderName × HeaderValue)) : HeaderMap :=
  l.foldl (fun headers p => headers.append p.1 p.2) empty

variable {headers name value} {name' : HeaderName}

@[simp] theorem getAll_append :
    (headers.append name value).getAll name' =
      headers.getAll name' ++ if name' = name then [value] else [] := by
  rw [getAll, append, IterMap.get?_insert]
  split_ifs with h
  · rw [h]
    rfl
  · rw [List.append_nil]
    rfl

@[simp] theorem getAll_insert :
    (headers.insert name value).getAll name' =
      if name' = name then [value] else headers.getAll name' := by
  rw [getAll, insert, IterMap.get?_insert]
  split_ifs <;> rfl

@[simp] theorem getAll_remove :
    (headers.remove name).2.getAll name' = if name' = name then [] else headers.getAll name' := by
  rw [getAll, remove, IterMap.get?_filter]
  split_ifs with h
  · cases headers.map.get? name' <;> simp [h]
  · cases hget : headers.map.get? name' <;> simp [h, getAll, hget, Option.filter]

/-- The names are those with values. -/
theorem mem_names_iff : name ∈ headers.names ↔ headers.getAll name ≠ [] := by
  rw [names, ← IterMap.isSome_get?_iff, getAll]
  cases hget : headers.map.get? name with
  | none => simp
  | some values => simpa using headers.nonempty _ (IterMap.get?_eq_some_iff.mp hget)

/-- Collecting keeps the values of every name, in their order. -/
theorem getAll_collect (l : List (HeaderName × HeaderValue)) :
    (collect l).getAll name = (l.filter (·.1 = name)).map (·.2) := by
  induction l using List.reverseRecOn with
  | nil => rfl
  | append_singleton l p ih =>
    rw [collect, List.foldl_append, List.filter_append, List.map_append, ← ih]
    by_cases h : p.1 = name
    · simp [h, collect]
    · simp [h, Ne.symm h, collect]

/-- The values of a name are found among all values, in their order. -/
theorem map_filter_iter : (headers.iter.filter (·.1 = name)).map (·.2) = headers.getAll name := by
  have hkey : ∀ e ∈ headers.map.entries, ∀ p ∈ e.2.map fun value => (e.1, value), p.1 = e.1 := by
    intro e _ p hp
    obtain ⟨value, -, rfl⟩ := List.mem_map.mp hp
    rfl
  rw [iter, getAll]
  cases hget : headers.map.get? name with
  | none =>
    rw [Option.getD_none, List.map_eq_nil_iff, List.filter_eq_nil_iff]
    intro p hp hname
    obtain ⟨e, he, hp⟩ := List.mem_flatMap.mp hp
    have hsome := IterMap.get?_eq_some_iff.mpr he
    rw [← hkey e he p hp, of_decide_eq_true hname, hget] at hsome
    simp at hsome
  | some values =>
    have he := IterMap.get?_eq_some_iff.mp hget
    rw [List.filter_flatMap_of_nodup_map headers.map.nodup hkey he, List.map_map]
    simp [Function.comp_def]

end HeaderMap

/-! ### Names that may pass -/

/-- How a character of a text is changed to lower case. Letters beyond ASCII are changed by a table
that may depend on where they stand. -/
def lowerChar (unicodeLower : String → ℕ → List Char) (s : String) (p : Char × ℕ) : List Char :=
  if p.1.toNat < 128 then [p.1.toLower] else unicodeLower s p.2

/-- `str::to_lowercase`. -/
def toLowercase (unicodeLower : String → ℕ → List Char) (s : String) : String :=
  String.ofList (s.toList.zipIdx.flatMap (lowerChar unicodeLower s))

def defaultAllowedHeaders : List String := []

variable (unicodeLower : String → ℕ → List Char)

/-- The names that may pass: those of the configuration and the defaults, in lower case. -/
def loadPassthroughHeaders (configured : Finset String) : Finset String :=
  configured.image (toLowercase unicodeLower) ∪
    (defaultAllowedHeaders.map (toLowercase unicodeLower)).toFinset

/-- A header name is in lower case. -/
theorem toLowercase_asStr (name : HeaderName) :
    toLowercase unicodeLower name.asStr = name.asStr := by
  have htoken : tokenChars.all (fun c => c.toNat < 128 ∧ c.toLower = c) = true := by decide
  have hchars : ∀ p ∈ name.asStr.toList.zipIdx, lowerChar unicodeLower name.asStr p = [p.1] := by
    intro p hp
    have hvalid := List.all_eq_true.mp name.valid p.1 (List.fst_mem_of_mem_zipIdx hp)
    obtain ⟨hascii, hlower⟩ :=
      of_decide_eq_true (List.all_eq_true.mp htoken p.1 (of_decide_eq_true hvalid))
    rw [lowerChar, if_pos hascii, hlower]
  rw [toLowercase, List.flatMap_congr hchars, ← List.map_eq_flatMap, List.zipIdx_map_fst,
    String.ofList_toList]

/-! ### Filtering -/

def xForwardedAccessToken : HeaderName := ⟨"x-forwarded-access-token", by decide⟩

def authorization : HeaderName := ⟨"authorization", by decide⟩

/-- The bytes of `Bearer `. -/
def bearerScheme : List UInt8 := [66, 101, 97, 114, 101, 114, 32]

/-- Sends a forwarded access token on as a bearer token. -/
def rewriteForwardedAccessHeaders (headers : HeaderMap) : HeaderMap :=
  match headers.remove xForwardedAccessToken with
  | (some token, headers) =>
    match HeaderValue.fromMaybeShared (bearerScheme ++ token.asBytes) with
    | some authValue => headers.insert authorization authValue
    | none => headers
  | (none, headers) => headers

/-- The headers that are sent on. -/
def filterHeaders (passthroughHeaders : Finset String) (headers : HeaderMap)
    (rewriteForwardedAccessHeader : Bool) : HeaderMap :=
  let filteredHeaders := HeaderMap.collect (headers.iter.filter fun p =>
    toLowercase unicodeLower p.1.asStr ∈ passthroughHeaders)
  if rewriteForwardedAccessHeader then rewriteForwardedAccessHeaders filteredHeaders
  else filteredHeaders

/-- The first value of a token can always be sent on. -/
theorem fromMaybeShared_bearer (token : HeaderValue) :
    ∃ value, HeaderValue.fromMaybeShared (bearerScheme ++ token.asBytes) = some value ∧
      value.asBytes = bearerScheme ++ token.asBytes := by
  have hscheme : bearerScheme.all isHeaderByte = true := by decide
  have hvalid : (bearerScheme ++ token.asBytes).all isHeaderByte = true := by
    rw [List.all_append, hscheme, token.valid]
    rfl
  exact ⟨⟨_, hvalid⟩, dif_pos hvalid, rfl⟩

/-- What every name has after rewriting. -/
theorem getAll_rewriteForwardedAccessHeaders (headers : HeaderMap) :
    (headers.getAll xForwardedAccessToken = [] ∧
      ∀ name, (rewriteForwardedAccessHeaders headers).getAll name = headers.getAll name) ∨
    ∃ token value, (headers.getAll xForwardedAccessToken).head? = some token ∧
      value.asBytes = bearerScheme ++ token.asBytes ∧
      ∀ name, (rewriteForwardedAccessHeaders headers).getAll name =
        if name = authorization then [value] else
          if name = xForwardedAccessToken then [] else headers.getAll name := by
  cases hhead : (headers.getAll xForwardedAccessToken).head? with
  | none =>
    have hnil := List.head?_eq_none_iff.mp hhead
    refine Or.inl ⟨hnil, ?_⟩
    intro name
    have hrewrite : rewriteForwardedAccessHeaders headers =
        (headers.remove xForwardedAccessToken).2 := by
      simp only [rewriteForwardedAccessHeaders, HeaderMap.remove, hhead]
    rw [hrewrite, HeaderMap.getAll_remove]
    split_ifs with h
    · rw [h, hnil]
    · rfl
  | some token =>
    -- a token makes a valid value with the scheme before it, since it is a valid one itself
    obtain ⟨value, hvalue, hbytes⟩ := fromMaybeShared_bearer token
    refine Or.inr ⟨token, value, rfl, hbytes, ?_⟩
    intro name
    have hrewrite : rewriteForwardedAccessHeaders headers =
        (headers.remove xForwardedAccessToken).2.insert authorization value := by
      simp only [rewriteForwardedAccessHeaders, HeaderMap.remove, hhead, hvalue]
    rw [hrewrite, HeaderMap.getAll_insert, HeaderMap.getAll_remove]

section Confinement

variable {unicodeLower} {passthroughHeaders : Finset String} {headers : HeaderMap}

/-- The names that may pass keep their values. -/
theorem getAll_collect_filter (name : HeaderName) :
    (HeaderMap.collect (headers.iter.filter fun p =>
      toLowercase unicodeLower p.1.asStr ∈ passthroughHeaders)).getAll name =
        if name.asStr ∈ passthroughHeaders then headers.getAll name else [] := by
  simp only [toLowercase_asStr]
  rw [HeaderMap.getAll_collect, List.filter_filter, ← HeaderMap.map_filter_iter]
  split_ifs with h
  · congr 1
    apply List.filter_congr
    intro p _
    by_cases hname : p.1 = name <;> simp [hname, h]
  · rw [List.map_eq_nil_iff, List.filter_eq_nil_iff]
    intro p _ hp
    simp only [Bool.and_eq_true, decide_eq_true_eq] at hp
    exact h (hp.1 ▸ hp.2)

end Confinement

/-- Two header maps are equal: every name has the same values, in the same order. -/
def HeaderMap.Same (headers headers' : HeaderMap) : Prop :=
  ∀ name, headers.getAll name = headers'.getAll name

/-- Two header maps agree on the names that may pass. -/
def AgreeOn (passthroughHeaders : Finset String) (headers headers' : HeaderMap) : Prop :=
  ∀ name : HeaderName, name.asStr ∈ passthroughHeaders →
    headers.getAll name = headers'.getAll name

/-- Two header maps agree on the names that may pass, also on the order in which they are found. -/
def AgreeInOrder (passthroughHeaders : Finset String) (headers headers' : HeaderMap) : Prop :=
  headers.iter.filter (·.1.asStr ∈ passthroughHeaders) =
    headers'.iter.filter (·.1.asStr ∈ passthroughHeaders)

/-- What may be sent on of a client's headers: the names that may pass, and a bearer token. -/
structure Confines (passthroughHeaders : Finset String) (rewriteForwardedAccessHeader : Bool)
    (headers result : HeaderMap) : Prop where
  /-- Other than by rewriting, no other name gets through. -/
  names : ∀ name ∈ result.names, name.asStr ∈ passthroughHeaders ∨
    name = authorization ∧ rewriteForwardedAccessHeader = true ∧
      xForwardedAccessToken.asStr ∈ passthroughHeaders ∧ xForwardedAccessToken ∈ headers.names
  /-- With rewriting, the token is not sent on in its own header. -/
  removed : rewriteForwardedAccessHeader = true → xForwardedAccessToken ∉ result.names
  /-- With rewriting, a token that gets through replaces every other authorization. -/
  bearer : rewriteForwardedAccessHeader = true →
    xForwardedAccessToken.asStr ∈ passthroughHeaders →
    ∀ token ∈ (headers.getAll xForwardedAccessToken).head?, ∃ value,
      result.getAll authorization = [value] ∧ value.asBytes = bearerScheme ++ token.asBytes

section Confinement

variable {unicodeLower} {passthroughHeaders : Finset String} {rewriteForwardedAccessHeader : Bool}
  {headers headers' : HeaderMap}

theorem HeaderValue.ext_asBytes {value value' : HeaderValue} (h : value.asBytes = value'.asBytes) :
    value = value' := by
  cases value
  cases value'
  cases h
  rfl

/-- Rewriting does not tell equal header maps apart. -/
theorem HeaderMap.Same.rewriteForwardedAccessHeaders (h : headers.Same headers') :
    (rewriteForwardedAccessHeaders headers).Same (rewriteForwardedAccessHeaders headers') := by
  intro name
  rcases getAll_rewriteForwardedAccessHeaders headers with
    ⟨hnil, hget⟩ | ⟨token, value, htoken, hvalue, hget⟩ <;>
  rcases getAll_rewriteForwardedAccessHeaders headers' with
    ⟨hnil', hget'⟩ | ⟨token', value', htoken', hvalue', hget'⟩
  · rw [hget, hget', h]
  · rw [← h, hnil] at htoken'
    simp at htoken'
  · rw [h, hnil'] at htoken
    simp at htoken
  · rw [h, htoken', Option.some.injEq] at htoken
    rw [hget, hget', h, HeaderValue.ext_asBytes (hvalue.trans (htoken ▸ hvalue'.symm))]

/-- Nothing but the names that may pass has an influence on what is sent on. -/
theorem AgreeOn.filterHeaders (h : AgreeOn passthroughHeaders headers headers') :
    (filterHeaders unicodeLower passthroughHeaders headers rewriteForwardedAccessHeader).Same
      (filterHeaders unicodeLower passthroughHeaders headers' rewriteForwardedAccessHeader) := by
  have hfiltered : HeaderMap.Same
      (HeaderMap.collect (headers.iter.filter fun p =>
        toLowercase unicodeLower p.1.asStr ∈ passthroughHeaders))
      (HeaderMap.collect (headers'.iter.filter fun p =>
        toLowercase unicodeLower p.1.asStr ∈ passthroughHeaders)) := by
    intro name
    rw [getAll_collect_filter, getAll_collect_filter]
    split_ifs with hname
    · exact h name hname
    · rfl
  cases rewriteForwardedAccessHeader with
  | false => exact hfiltered
  | true => exact hfiltered.rewriteForwardedAccessHeaders

/-- If also the order is the same, it is the same in what is sent on. -/
theorem AgreeInOrder.filterHeaders (h : AgreeInOrder passthroughHeaders headers headers') :
    filterHeaders unicodeLower passthroughHeaders headers rewriteForwardedAccessHeader =
      filterHeaders unicodeLower passthroughHeaders headers' rewriteForwardedAccessHeader := by
  rw [AgreeInOrder] at h
  simp only [GuardrailsOrchestrator.filterHeaders, toLowercase_asStr, h]

/-- Rewriting keeps the confinement of headers that have been filtered. -/
theorem confines_rewriteForwardedAccessHeaders {filtered : HeaderMap}
    (hfiltered : ∀ name, filtered.getAll name =
      if name.asStr ∈ passthroughHeaders then headers.getAll name else []) :
    Confines passthroughHeaders true headers (rewriteForwardedAccessHeaders filtered) := by
  have hmem : ∀ name, filtered.getAll name ≠ [] →
      name.asStr ∈ passthroughHeaders ∧ name ∈ headers.names := by
    intro name hne
    rw [hfiltered] at hne
    split_ifs at hne with hname
    · exact ⟨hname, HeaderMap.mem_names_iff.mpr hne⟩
    · exact absurd rfl hne
  have hdistinct : xForwardedAccessToken ≠ authorization := by decide
  -- either there is no token, or it is moved to the authorization
  rcases getAll_rewriteForwardedAccessHeaders filtered with
    ⟨hnil, hget⟩ | ⟨token, value, htoken, hvalue, hget⟩
  · constructor
    case names =>
      intro name hname
      rw [HeaderMap.mem_names_iff, hget] at hname
      exact Or.inl (hmem name hname).1
    case removed =>
      intro _
      rw [HeaderMap.mem_names_iff, hget, hnil, not_not]
    case bearer =>
      intro _ hpass token htoken
      rw [hfiltered, if_pos hpass] at hnil
      rw [hnil] at htoken
      simp at htoken
  · have hne : filtered.getAll xForwardedAccessToken ≠ [] := by
      intro hnil
      simp [hnil] at htoken
    constructor
    case names =>
      intro name hname
      rw [HeaderMap.mem_names_iff, hget] at hname
      split_ifs at hname with hauth hforwarded
      · exact Or.inr ⟨hauth, rfl, hmem _ hne⟩
      · exact absurd rfl hname
      · exact Or.inl (hmem name hname).1
    case removed =>
      intro _
      rw [HeaderMap.mem_names_iff, hget, if_neg hdistinct, if_pos rfl, not_not]
    case bearer =>
      intro _ hpass token' htoken'
      rw [hfiltered, if_pos hpass] at htoken
      have htokens : token' = token := Option.mem_unique htoken' htoken
      exact ⟨value, by rw [hget, if_pos rfl], htokens ▸ hvalue⟩

/-- Nothing but the names that may pass, and a bearer token, is sent on. -/
theorem confines_filterHeaders :
    Confines passthroughHeaders rewriteForwardedAccessHeader headers
      (filterHeaders unicodeLower passthroughHeaders headers rewriteForwardedAccessHeader) := by
  cases rewriteForwardedAccessHeader with
  | true => exact confines_rewriteForwardedAccessHeaders getAll_collect_filter
  | false =>
    constructor
    case names =>
      intro name hname
      rw [HeaderMap.mem_names_iff, filterHeaders, if_neg (by decide), getAll_collect_filter] at hname
      split_ifs at hname with hpass
      · exact Or.inl hpass
      · exact absurd rfl hname
    case removed => exact fun h => absurd h (by decide)
    case bearer => exact fun h => absurd h (by decide)

end Confinement

/-- For every configuration, header maps that agree on the names that may pass are sent on alike,
and nothing but these names gets through. If a token is rewritten, its own header does not get
through, and the authorization is that of the first token. -/
theorem filterHeaders_confines {configured : Finset String} {rewriteForwardedAccessHeader : Bool}
    {headers headers' : HeaderMap}
    (hagree : AgreeOn (loadPassthroughHeaders unicodeLower configured) headers headers') :
    (filterHeaders unicodeLower (loadPassthroughHeaders unicodeLower configured) headers
        rewriteForwardedAccessHeader).Same
      (filterHeaders unicodeLower (loadPassthroughHeaders unicodeLower configured) headers'
        rewriteForwardedAccessHeader) ∧
    (AgreeInOrder (loadPassthroughHeaders unicodeLower configured) headers headers' →
      filterHeaders unicodeLower (loadPassthroughHeaders unicodeLower configured) headers
          rewriteForwardedAccessHeader =
        filterHeaders unicodeLower (loadPassthroughHeaders unicodeLower configured) headers'
          rewriteForwardedAccessHeader) ∧
    Confines (loadPassthroughHeaders unicodeLower configured) rewriteForwardedAccessHeader headers
      (filterHeaders unicodeLower (loadPassthroughHeaders unicodeLower configured) headers
        rewriteForwardedAccessHeader) :=
  ⟨hagree.filterHeaders, AgreeInOrder.filterHeaders, confines_filterHeaders⟩

namespace HeadersExample

def cookie : HeaderName := ⟨"cookie", by decide⟩

def configured : Finset String := {"X-Forwarded-Access-Token"}

/-- Only ASCII letters occur here. -/
def noLower : String → ℕ → List Char := fun _ _ => []

/-- Two tokens, and an authorization of the client. -/
def headers : HeaderMap :=
  HeaderMap.collect [(authorization, ⟨[120], by decide⟩),
    (xForwardedAccessToken, ⟨[97], by decide⟩), (xForwardedAccessToken, ⟨[98], by decide⟩)]

/-- The same with a cookie, which is not configured. -/
def withCookie : HeaderMap := headers.append cookie ⟨[121], by decide⟩

end HeadersExample

open HeadersExample in
theorem filterHeaders_confines_cookie :
    AgreeOn (loadPassthroughHeaders noLower configured) headers withCookie ∧
    Confines (loadPassthroughHeaders noLower configured) true headers
      (filterHeaders noLower (loadPassthroughHeaders noLower configured) headers true) := by
  have hagree : AgreeOn (loadPassthroughHeaders noLower configured) headers withCookie := by
    intro name hname
    have hcookie : cookie.asStr ∉ loadPassthroughHeaders noLower configured := by decide
    have hne : name ≠ cookie := fun h => hcookie (h ▸ hname)
    rw [withCookie, HeaderMap.getAll_append, if_neg hne, List.append_nil]
  exact ⟨hagree, (filterHeaders_confines noLower hagree).2.2⟩

end GuardrailsOrchestrator
