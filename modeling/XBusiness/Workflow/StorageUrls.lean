import XBusiness.Workflow.GeneratedUrls

/-! # The parts of a storage url

`makeDownloadRequest`, `makeGenerateUrlRequest` for the url of the person and `GetGenerateUrlData` of three
classes each cut a url at its first and at its second slash.

* `PartsOf` — endpoint, bucket and key joined by slashes are the url, said without positions.
* `splitUri_eq_some_iff` — the cut finds the parts, of which there is one choice.
* `hasKey_iff_partsOf` — which urls have parts.
* `storage_urls_split` — what each copy of the cut makes of every url.
-/

namespace XBusiness

open Interaction

/-! ## Urls and their parts -/

/-- The parts joined by slashes are the url.  No slash stands in the first two, and the last is not empty. -/
structure PartsOf (uri : String) (parts : StorageUrl) : Prop where
  endpoint : '/' ∉ parts.endpoint.toList
  bucket : '/' ∉ parts.bucket.toList
  key : parts.key ≠ ""
  joined : parts.endpoint ++ "/" ++ parts.bucket ++ "/" ++ parts.key = uri

/-- The url has a second slash, and a character behind it. -/
def HasKey (uri : String) : Prop :=
  ∃ index, uri.toList[index]? = some '/' ∧ (uri.toList.take index).count '/' = 1 ∧
    index + 1 < uri.toList.length

/-- The parts as lists of characters. -/
theorem PartsOf.toList {uri : String} {parts : StorageUrl} (partsOf : PartsOf uri parts) :
    uri.toList = parts.endpoint.toList ++ '/' :: (parts.bucket.toList ++ '/' :: parts.key.toList) := by
  rw [← partsOf.joined]
  simp

theorem partsOf_ofList {uri : String} {endpoint bucket key : List Char} (noEndpoint : '/' ∉ endpoint)
    (noBucket : '/' ∉ bucket) (nonempty : key ≠ [])
    (joined : uri.toList = endpoint ++ '/' :: (bucket ++ '/' :: key)) :
    PartsOf uri {
      endpoint := String.ofList endpoint, bucket := String.ofList bucket, key := String.ofList key } where
  endpoint := by rwa [String.toList_ofList]
  bucket := by rwa [String.toList_ofList]
  key := by simpa using nonempty
  joined := by
    apply String.toList_injective
    rw [joined]
    simp

/-! ## The search for the slashes -/

/-- The search passes over what stands before the position and what holds no such character behind it. -/
theorem findFrom_append {char : Char} (front : List Char) {back : List Char} (absent : char ∉ back)
    (rest : List Char) :
    findFrom char (front ++ back ++ char :: rest) front.length = some (front.length + back.length) := by
  have passed : back.findIdx? (fun other => decide (other = char)) = none := by
    rw [List.findIdx?_eq_none_iff]
    intro other found
    exact decide_eq_false fun same => absent (same ▸ found)
  rw [findFrom, List.append_assoc, List.drop_left, List.findIdx?_append, passed, List.findIdx?_cons]
  simp [Nat.add_comm]

theorem findFrom_eq_none {char : Char} (front : List Char) {back : List Char} (absent : char ∉ back) :
    findFrom char (front ++ back) front.length = none := by
  rw [findFrom, List.drop_left, Option.map_eq_none_iff, List.findIdx?_eq_none_iff]
  intro other found
  exact decide_eq_false fun same => absent (same ▸ found)

/-! ## The cut -/

section Cut

variable {uri : String} {endpoint bucket key : List Char}

/-- A url that is cut at its first two slashes has the parts around them, where a key is left. -/
theorem splitUri_joined (noEndpoint : '/' ∉ endpoint) (noBucket : '/' ∉ bucket)
    (joined : uri.toList = endpoint ++ '/' :: (bucket ++ '/' :: key)) :
    splitUri uri = if key ≠ [] then some {
      endpoint := String.ofList endpoint, bucket := String.ofList bucket, key := String.ofList key }
    else none := by
  have first : findFrom '/' uri.toList 0 = some endpoint.length := by
    rw [joined]
    simpa using findFrom_append [] noEndpoint (bucket ++ '/' :: key)
  have second : findFrom '/' uri.toList (endpoint.length + 1) =
      some (endpoint.length + 1 + bucket.length) := by
    rw [joined]
    simpa using findFrom_append (endpoint ++ ['/']) noBucket key
  have bucketStart : uri.toList.drop (endpoint.length + 1) = bucket ++ '/' :: key := by
    rw [joined, ← List.drop_drop]
    simp
  have keyStart : uri.toList.drop (endpoint.length + 1 + bucket.length + 1) = key := by
    rw [Nat.add_assoc, ← List.drop_drop, bucketStart, ← List.drop_drop]
    simp
  have bucketLength : endpoint.length + 1 + bucket.length - endpoint.length - 1 = bucket.length := by omega
  have keyLeft : endpoint.length + 1 + bucket.length + 1 < uri.toList.length ↔ key ≠ [] := by
    rw [← List.length_pos_iff, ← keyStart, List.length_drop]
    omega
  rw [splitUri]
  simp only [first, second, substr, keyStart, bucketStart, bucketLength, keyLeft, List.drop_zero, List.take_left]
  rw [joined, List.take_left]

/-- Without a second slash there is nothing to cut. -/
theorem splitUri_eq_none (few : uri.toList.count '/' ≤ 1) : splitUri uri = none := by
  rw [splitUri]
  by_cases found : '/' ∈ uri.toList
  · obtain ⟨endpoint, rest, joined, noEndpoint⟩ := List.eq_append_cons_of_mem found
    have noRest : '/' ∉ rest := by
      rw [joined, List.count_append, List.count_cons_self, List.count_eq_zero_of_not_mem noEndpoint] at few
      exact List.count_eq_zero.mp (by omega)
    have first : findFrom '/' uri.toList 0 = some endpoint.length := by
      rw [joined]
      simpa using findFrom_append [] noEndpoint rest
    have second : findFrom '/' uri.toList (endpoint.length + 1) = none := by
      rw [joined]
      simpa using findFrom_eq_none (endpoint ++ ['/']) noRest
    simp only [first, second]
  · have none : findFrom '/' uri.toList 0 = none := findFrom_eq_none [] found
    rw [none]

end Cut

/-- The cut finds the parts of a url, where it has some. -/
theorem splitUri_eq_some_iff (uri : String) (parts : StorageUrl) :
    splitUri uri = some parts ↔ PartsOf uri parts := by
  constructor
  · intro split
    -- a url that is cut has two slashes
    have found : '/' ∈ uri.toList := by
      rw [← List.count_pos_iff]
      by_contra none
      rw [splitUri_eq_none (by omega)] at split
      cases split
    obtain ⟨endpoint, rest, joined, noEndpoint⟩ := List.eq_append_cons_of_mem found
    have again : '/' ∈ rest := by
      by_contra noRest
      have few : uri.toList.count '/' ≤ 1 := by
        rw [joined, List.count_append, List.count_cons_self, List.count_eq_zero_of_not_mem noEndpoint,
          List.count_eq_zero_of_not_mem noRest]
      rw [splitUri_eq_none few] at split
      cases split
    obtain ⟨bucket, key, rfl, noBucket⟩ := List.eq_append_cons_of_mem again
    rw [splitUri_joined noEndpoint noBucket joined] at split
    obtain ⟨nonempty, same⟩ := Option.ite_none_right_eq_some.mp split
    cases same
    exact partsOf_ofList noEndpoint noBucket nonempty joined
  · intro partsOf
    rw [splitUri_joined partsOf.endpoint partsOf.bucket partsOf.toList, if_pos]
    · simp
    · simpa using partsOf.key

-- the url of the test message without a bucket
example : splitUri "oss-cn-beijing.aliyuncs.com/zsy-feitian-test1" = none := by decide

/-- There is one choice of parts. -/
theorem PartsOf.unique {uri : String} {parts other : StorageUrl} (partsOf : PartsOf uri parts)
    (otherOf : PartsOf uri other) : parts = other := by
  rw [← splitUri_eq_some_iff] at partsOf otherOf
  rw [partsOf] at otherOf
  exact Option.some.inj otherOf

/-- The urls that have parts are those with a key. -/
theorem hasKey_iff_partsOf (uri : String) : HasKey uri ↔ ∃ parts, PartsOf uri parts := by
  constructor
  · rintro ⟨index, slash, one, inside⟩
    have cut : uri.toList = uri.toList.take index ++ '/' :: uri.toList.drop (index + 1) := by
      obtain ⟨bound, slash⟩ := List.getElem?_eq_some_iff.mp slash
      rw [← slash, ← List.drop_eq_getElem_cons, List.take_append_drop]
    -- the one slash in front ends the endpoint
    have found : '/' ∈ uri.toList.take index := List.count_pos_iff.mp (by omega)
    obtain ⟨endpoint, bucket, front, noEndpoint⟩ := List.eq_append_cons_of_mem found
    have noBucket : '/' ∉ bucket := by
      rw [front, List.count_append, List.count_cons_self, List.count_eq_zero_of_not_mem noEndpoint] at one
      exact List.count_eq_zero.mp (by omega)
    have nonempty : uri.toList.drop (index + 1) ≠ [] := by
      rw [← List.length_pos_iff, List.length_drop]
      omega
    rw [front, List.append_assoc, List.cons_append] at cut
    exact ⟨_, partsOf_ofList noEndpoint noBucket nonempty cut⟩
  · rintro ⟨parts, partsOf⟩
    have cut : uri.toList = (parts.endpoint.toList ++ '/' :: parts.bucket.toList) ++ '/' :: parts.key.toList := by
      rw [partsOf.toList, List.append_assoc, List.cons_append]
    have nonempty : 0 < parts.key.toList.length := by
      rw [List.length_pos_iff]
      simpa using partsOf.key
    refine ⟨(parts.endpoint.toList ++ '/' :: parts.bucket.toList).length, ?_, ?_, ?_⟩
    · rw [cut, List.getElem?_append_right (Nat.le_refl _), Nat.sub_self, List.getElem?_cons_zero]
    · rw [cut, List.take_left, List.count_append, List.count_cons_self,
        List.count_eq_zero_of_not_mem partsOf.endpoint, List.count_eq_zero_of_not_mem partsOf.bucket]
    · rw [cut]
      simp only [List.length_append, List.length_cons]
      omega

/-! ## The entries of the requests -/

/-- An entry is the object with the parts of the url. -/
def EntryOf (uri : String) (entry : Json) : Prop := ∃ parts, PartsOf uri parts ∧ entry = storageUrlJson parts

theorem entryOf_iff_split (uri : String) (entry : Json) :
    EntryOf uri entry ↔ (splitUri uri).map storageUrlJson = some entry := by
  rw [Option.map_eq_some_iff, EntryOf]
  constructor
  · rintro ⟨parts, partsOf, rfl⟩
    exact ⟨parts, (splitUri_eq_some_iff uri parts).mpr partsOf, rfl⟩
  · rintro ⟨parts, split, rfl⟩
    exact ⟨parts, (splitUri_eq_some_iff uri parts).mp split, rfl⟩

/-- `GetGenerateUrlData` of the three classes: an entry for each face, or failure. -/
theorem getGenerateUrlData_eq_some_iff (self : BaseData) (entries : List Json) :
    getGenerateUrlData self = some entries ↔ self.dataClass.makesUrls = true ∧
      List.Forall₂ (fun face entry => EntryOf face.url entry) self.captureFaces entries := by
  rw [getGenerateUrlData]
  simp only [entryOf_iff_split]
  cases self.dataClass with
  | business | capture | xiashunCapture => simp [DataClass.makesUrls, mapM_eq_some_iff_forall₂]
  | screenshot | xiashunBusiness => simp [DataClass.makesUrls]

/-- The request that names pictures in storage. -/
def storageRequest (env : Env) (path : String) (outJv : Json) : RequestInfo where
  method := "POST"
  path := path
  extra := jsonHeader
  body := env.text.toStyledString outJv

/-- What `makeDownloadRequest` asks for: the picture of the next url. -/
def DownloadOf (env : Env) (session : Session) (request : RequestInfo) : Prop :=
  ∃ entry path, EntryOf session.kafkaData.getNextUrl.1 entry ∧
    env.conf.getValue "s3proxy" "path" = some path ∧ request = storageRequest env path entry

/-- What `makeGenerateUrlRequest` asks for: the pictures of the faces, and that of a person with a url. -/
def UrlRequestOf (env : Env) (session : Session) (request : RequestInfo) : Prop :=
  ∃ faces person path, getGenerateUrlData session.kafkaData = some faces ∧
    List.Forall₂ EntryOf ([session.personResult.url].filter (· ≠ "")) person ∧
    env.conf.getValue "s3proxy" "gen_url_path" = some path ∧
    request = storageRequest env path
      (if faces ++ person = [] then Json.null else Json.null.set "list" (.array (faces ++ person)))

theorem not_entryOf_empty (entry : Json) : ¬EntryOf "" entry := by
  rintro ⟨parts, partsOf, -⟩
  have joined := partsOf.toList
  simp at joined

/-- The download request is made for every next url that has parts, and for no other. -/
theorem makeDownloadRequest_iff (env : Env) (session : Session) :
    ∃ made after, (makeDownloadRequest env).run session = .ret (made, after) ∧
      ∀ request, made = some request ↔ DownloadOf env session request := by
  -- without parts there is no request
  have refused : (∀ entry, ¬EntryOf session.kafkaData.getNextUrl.1 entry) →
      ∀ request, none = some request ↔ DownloadOf env session request := by
    rintro noEntry request
    constructor
    · rintro ⟨⟩
    · rintro ⟨entry, path, entryOf, -⟩
      exact absurd entryOf (noEntry entry)
  rw [makeDownloadRequest]
  simp only [StateT.run_bind, StateT.run_get, Prog.pure_eq, Prog.ret_bind]
  by_cases count : session.kafkaData.getUrlCount ≤ 0
  · rw [if_pos count]
    refine ⟨none, session, rfl, refused fun entry entryOf => ?_⟩
    have noFaces : session.kafkaData.captureFaces = [] := List.eq_nil_of_length_eq_zero (Nat.le_zero.mp count)
    rw [BaseData.getNextUrl, noFaces, List.getElem?_nil] at entryOf
    exact not_entryOf_empty entry entryOf
  · rw [if_neg count]
    by_cases empty : session.kafkaData.getNextUrl.1 = ""
    · simp only [empty, if_true]
      refine ⟨none, _, rfl, refused fun entry entryOf => ?_⟩
      rw [empty] at entryOf
      exact not_entryOf_empty entry entryOf
    · simp only [empty, if_false]
      cases split : splitUri session.kafkaData.getNextUrl.1 with
      | none =>
        refine ⟨none, _, rfl, refused fun entry entryOf => ?_⟩
        rw [entryOf_iff_split, split] at entryOf
        cases entryOf
      | some parts =>
        cases configured : env.conf.getValue "s3proxy" "path" with
        | none =>
          refine ⟨none, _, rfl, fun request => ?_⟩
          simp [DownloadOf, configured]
        | some path =>
          refine ⟨_, _, rfl, fun request => ?_⟩
          simp only [DownloadOf, entryOf_iff_split, split, configured, Option.map_some, Option.some.injEq]
          constructor
          · rintro rfl
            exact ⟨_, path, rfl, rfl, rfl⟩
          · rintro ⟨_, _, rfl, rfl, rfl⟩
            rfl

/-- The url request is made where every face has parts and the person has, or has no url. -/
theorem makeGenerateUrlRequest_iff (env : Env) (session : Session) :
    ∃ made, (makeGenerateUrlRequest env).run session = .ret (made, session) ∧
      ∀ request, made = some request ↔ UrlRequestOf env session request := by
  -- the code reads the url of the person as a list of none or one
  have personList : ∀ person, (if session.personResult.url ≠ "" then
        (splitUri session.personResult.url).map fun parts => [storageUrlJson parts] else some []) = some person ↔
      List.Forall₂ EntryOf ([session.personResult.url].filter (· ≠ "")) person := by
    intro person
    by_cases url : session.personResult.url = ""
    · simp [url]
    · have listed : [session.personResult.url].filter (· ≠ "") = [session.personResult.url] := by simp [url]
      rw [if_pos url, listed]
      constructor
      · intro made
        obtain ⟨parts, split, rfl⟩ := Option.map_eq_some_iff.mp made
        exact .cons ⟨parts, (splitUri_eq_some_iff _ parts).mp split, rfl⟩ .nil
      · intro related
        obtain ⟨entry, rest, ⟨parts, partsOf, rfl⟩, none, rfl⟩ := List.forall₂_cons_left_iff.mp related
        cases none
        rw [(splitUri_eq_some_iff _ parts).mpr partsOf]
        rfl
  rw [makeGenerateUrlRequest]
  simp only [StateT.run_bind, StateT.run_get, Prog.pure_eq, Prog.ret_bind]
  simp only [UrlRequestOf, ← personList]
  cases madeFaces : getGenerateUrlData session.kafkaData with
  | none => exact ⟨none, rfl, by simp⟩
  | some faces =>
    cases (if session.personResult.url ≠ "" then
        (splitUri session.personResult.url).map fun parts => [storageUrlJson parts] else some []) with
    | none => exact ⟨none, rfl, by simp⟩
    | some person =>
      cases env.conf.getValue "s3proxy" "gen_url_path" with
      | none => exact ⟨none, rfl, by simp⟩
      | some path =>
        refine ⟨_, rfl, fun request => ?_⟩
        constructor
        · rintro ⟨⟩
          exact ⟨faces, person, path, rfl, rfl, rfl, rfl⟩
        · rintro ⟨_, _, _, ⟨⟩, ⟨⟩, ⟨⟩, rfl⟩
          rfl

/-! ## Main result -/

/-- A url has parts exactly when a character stands behind its second slash, and then one choice of them.
    The download request, the request for the url of a person and `GetGenerateUrlData` of every class find
    them, and make nothing of a url without. -/
theorem storage_urls_split (env : Env) :
    (∀ uri, HasKey uri ↔ ∃! parts, PartsOf uri parts) ∧
      (∀ uri parts, splitUri uri = some parts ↔ PartsOf uri parts) ∧
      (∀ session, ∃ made after, (makeDownloadRequest env).run session = .ret (made, after) ∧
        ∀ request, made = some request ↔ DownloadOf env session request) ∧
      (∀ session, ∃ made, (makeGenerateUrlRequest env).run session = .ret (made, session) ∧
        ∀ request, made = some request ↔ UrlRequestOf env session request) ∧
      (∀ self entries, getGenerateUrlData self = some entries ↔ self.dataClass.makesUrls = true ∧
        List.Forall₂ (fun face entry => EntryOf face.url entry) self.captureFaces entries) := by
  refine ⟨?_, splitUri_eq_some_iff, makeDownloadRequest_iff env, makeGenerateUrlRequest_iff env,
    getGenerateUrlData_eq_some_iff⟩
  intro uri
  rw [hasKey_iff_partsOf]
  constructor
  · rintro ⟨parts, partsOf⟩
    exact ⟨parts, partsOf, fun other otherOf => otherOf.unique partsOf⟩
  · rintro ⟨parts, partsOf, -⟩
    exact ⟨parts, partsOf⟩

end XBusiness
