import LoadScript.Proofs.Compile.Sections

/-!
The headers that a request sends. Of the candidates with one name, in whatever letter case, the first is kept,
where it stands and as it is spelled. The others are reported.
-/

namespace LoadScript.Compile

open Script

def foldedName (header : String × Expr) : String := Text.lower header.1

def haveSameName (first second : String × Expr) : Bool := foldedName first = foldedName second

variable {requestName : String} {candidate : String × Expr} {seen : List String}

/-! One candidate. -/

theorem mergeHeaders_dropped (found : foldedName candidate ∈ seen) (rest : List (String × Expr)) :
    (mergeHeaders requestName seen (candidate :: rest)).value =
      (mergeHeaders requestName seen rest).value := by
  have contained : seen.contains (Text.lower candidate.1) = true := List.contains_iff_mem.mpr found
  rw [mergeHeaders, if_pos contained, Logged.value_bind]

theorem mergeHeaders_kept (fresh : foldedName candidate ∉ seen) (rest : List (String × Expr)) :
    (mergeHeaders requestName seen (candidate :: rest)).value =
      candidate :: (mergeHeaders requestName (foldedName candidate :: seen) rest).value := by
  have notContained : ¬ seen.contains (Text.lower candidate.1) = true := fun contained =>
    fresh (List.contains_iff_mem.mp contained)
  rw [mergeHeaders, if_neg notContained, Logged.value_bind, Logged.value_pure]
  rfl

/-! All candidates. -/

theorem mergeHeaders_eq_eraseDupsBy (candidates : List (String × Expr)) : ∀ seen,
    (mergeHeaders requestName seen candidates).value =
      (candidates.filter fun candidate => foldedName candidate ∉ seen).eraseDupsBy haveSameName := by
  induction candidates with
  | nil => intro seen; rfl
  | cons candidate rest ih =>
      intro seen
      by_cases found : foldedName candidate ∈ seen
      · rw [mergeHeaders_dropped found, ih, List.filter_cons_of_neg (by simpa using found)]
      · rw [mergeHeaders_kept found, ih, List.filter_cons_of_pos (by simpa using found),
          List.eraseDupsBy_cons, List.filter_filter]
        -- What `eraseDupsBy` drops behind the candidate is what the names seen now exclude.
        have both : (fun other => decide (haveSameName other candidate = false) &&
              decide (foldedName other ∉ seen)) =
            fun other => decide (foldedName other ∉ foldedName candidate :: seen) := by
          funext other
          simp [haveSameName, not_or]
        rw [both]

theorem filter_mergeHeaders (name : String) (candidates : List (String × Expr)) : ∀ seen,
    (mergeHeaders requestName seen candidates).value.filter (foldedName · = name) =
      if name ∈ seen then [] else (candidates.find? (foldedName · = name)).toList := by
  induction candidates with
  | nil => intro seen; simp [mergeHeaders]
  | cons candidate rest ih =>
      intro seen
      by_cases named : foldedName candidate = name
      · subst named
        by_cases found : foldedName candidate ∈ seen
        · rw [mergeHeaders_dropped found, ih, if_pos found, if_pos found]
        · rw [mergeHeaders_kept found, List.filter_cons_of_pos (by simp), ih,
            if_pos List.mem_cons_self, if_neg found, List.find?_cons_of_pos (by simp)]
          rfl
      · have later : (candidate :: rest).find? (foldedName · = name) =
            rest.find? (foldedName · = name) := List.find?_cons_of_neg (by simpa using named)
        by_cases found : foldedName candidate ∈ seen
        · rw [mergeHeaders_dropped found, ih, later]
        · have other : name ≠ foldedName candidate := Ne.symm named
          rw [mergeHeaders_kept found, List.filter_cons_of_neg (by simpa using named), ih, later]
          simp [other]

theorem length_mergeHeaders (candidates : List (String × Expr)) : ∀ seen,
    (mergeHeaders requestName seen candidates).value.length +
      (mergeHeaders requestName seen candidates).records.length = candidates.length := by
  induction candidates with
  | nil => intro seen; rfl
  | cons candidate rest ih =>
      intro seen
      rw [mergeHeaders]
      split
      · have others := ih seen
        simp only [Logged.value_bind, Logged.records_bind, Logged.record, List.length_append,
          List.length_cons, List.length_nil]
        omega
      · have others := ih (Text.lower candidate.1 :: seen)
        simp only [Logged.value_bind, Logged.value_pure, Logged.records_bind, Logged.records_pure,
          List.length_cons, List.length_append, List.length_nil]
        omega

/-! The headers of a request. -/

theorem filter_requestHeaders (request : Request) (name : String) :
    (requestHeaders request).filter (foldedName · = name) =
      ((headerCandidates request).find? (foldedName · = name)).toList := by
  rw [requestHeaders, headers, filter_mergeHeaders, if_neg List.not_mem_nil]

theorem nodup_requestHeaders (request : Request) :
    ((requestHeaders request).map foldedName).Nodup := by
  rw [List.nodup_iff_count]
  intro name
  rw [List.count, List.countP_map, List.countP_eq_length_filter]
  have one : ((requestHeaders request).filter (foldedName · = name)).length ≤ 1 := by
    rw [filter_requestHeaders]
    cases (headerCandidates request).find? (foldedName · = name) <;> simp
  exact one

theorem authorization_eq_singleton {request : Request} {granted : String × Expr}
    (member : granted ∈ authorization request) :
    authorization request = [granted] ∧ foldedName granted = "authorization" := by
  have folded : Text.lower "Authorization" = "authorization" := by decide +kernel
  rw [authorization] at member ⊢
  split at member
  · split at member
    · cases member
    · next given =>
        rw [List.mem_singleton] at member
        rw [member, if_neg given]
        exact ⟨rfl, folded⟩
  · rw [List.mem_singleton] at member
    rw [member]
    exact ⟨rfl, folded⟩
  · cases member

theorem find?_authorization {request : Request} {granted : String × Expr}
    (member : granted ∈ authorization request) :
    (headerCandidates request).find? (foldedName · = "authorization") = some granted := by
  obtain ⟨only, named⟩ := authorization_eq_singleton member
  rw [headerCandidates, only, List.append_assoc, List.singleton_append]
  exact List.find?_cons_of_pos (by simpa using named)

/-- Under other names than that of an authorization, the first declared header comes before the default. -/
theorem find?_headerCandidates {name : String} (granted : name ≠ "authorization") (nonempty : name ≠ "")
    (request : Request) :
    (headerCandidates request).find? (foldedName · = name) =
      ((request.headers.find? fun header => Text.lower header.key = name).map fun header =>
          (header.key, resolve header.value)).or
        ((contentType request).find? (foldedName · = name)) := by
  have notGranted : (authorization request).find? (foldedName · = name) = none := by
    rw [List.find?_eq_none]
    intro header member
    rw [(authorization_eq_singleton member).2]
    simpa using granted.symm
  have declared : (declaredHeaders request).find? (foldedName · = name) =
      (request.headers.find? fun header => Text.lower header.key = name).map fun header =>
        (header.key, resolve header.value) := by
    rw [declaredHeaders, List.find?_map, List.find?_filter]
    congr 2
    funext header
    have keyed (named : Text.lower header.key = name) : header.key ≠ "" := by
      rintro empty
      rw [empty] at named
      exact nonempty named.symm
    rw [decide_eq_decide]
    constructor
    · exact fun both => of_decide_eq_true both.2
    · exact fun named => ⟨bne_iff_ne.mpr (keyed named), decide_eq_true named⟩
  rw [headerCandidates, List.append_assoc, List.find?_append, notGranted, Option.none_or,
    List.find?_append, declared]

theorem lower_contentType : Text.lower "Content-Type" = "content-type" := by decide +kernel

theorem exists_contentType {request : Request} (sends : request.method.hasBody = true) :
    ∃ header, (headerCandidates request).find? (foldedName · = "content-type") = some header := by
  have default : ("Content-Type", .string "application/json") ∈ headerCandidates request := by
    rw [headerCandidates, contentType, if_pos sends]
    exact List.mem_append_right _ (List.mem_singleton.mpr rfl)
  have isSome : ((headerCandidates request).find? (foldedName · = "content-type")).isSome := by
    rw [List.find?_isSome]
    exact ⟨_, default, by simp [foldedName, lower_contentType]⟩
  exact Option.isSome_iff_exists.mp isSome

/-- A request sends the first candidate of every name, in the order of the candidates. No name is sent twice,
the granted authorization is not replaced by a declared one, and a body has one content type. What is not sent
is reported. -/
theorem requestHeaders_firsts (request : Request) :
    requestHeaders request = (headerCandidates request).eraseDupsBy haveSameName ∧
      ((requestHeaders request).map foldedName).Nodup ∧
      (∀ granted ∈ authorization request,
        (requestHeaders request).filter (foldedName · = "authorization") = [granted]) ∧
      (request.method.hasBody = true →
        ∃ header, (requestHeaders request).filter (foldedName · = "content-type") = [header]) ∧
      (requestHeaders request).length + (headers request).records.length =
        (headerCandidates request).length := by
  refine ⟨?_, nodup_requestHeaders request, ?_, ?_, length_mergeHeaders _ _⟩
  · rw [requestHeaders, headers, mergeHeaders_eq_eraseDupsBy, List.filter_eq_self.mpr (by simp)]
  · intro granted member
    rw [filter_requestHeaders, find?_authorization member]
    rfl
  · intro sends
    obtain ⟨header, found⟩ := exists_contentType sends
    refine ⟨header, ?_⟩
    rw [filter_requestHeaders, found]
    rfl

def repeatedHeaders : Request := {
  method := .post
  authKind := .bearer
  bearerToken := "t"
  headers := [
    ⟨"AUTHORIZATION", "Bearer u"⟩, ⟨"X-Id", "1"⟩, ⟨"", "2"⟩, ⟨"x-ID", "3"⟩, ⟨"content-TYPE", "text/plain"⟩] }

theorem requestHeaders_firsts_repeated :
    ("Authorization", .string "Bearer t") ∈ authorization repeatedHeaders ∧
      repeatedHeaders.method.hasBody = true ∧
      (requestHeaders repeatedHeaders).filter (foldedName · = "authorization") =
        [("Authorization", .string "Bearer t")] ∧
      ∃ header, (requestHeaders repeatedHeaders).filter (foldedName · = "content-type") = [header] := by
  have firsts := requestHeaders_firsts repeatedHeaders
  have granted : ("Authorization", .string "Bearer t") ∈ authorization repeatedHeaders :=
    List.mem_singleton.mpr rfl
  exact ⟨granted, rfl, firsts.2.2.1 _ granted, firsts.2.2.2.1 rfl⟩

end LoadScript.Compile
