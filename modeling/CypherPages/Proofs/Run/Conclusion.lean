import CypherPages.Proofs.Query.ReadBack
import CypherPages.Proofs.Query.Writable

/-! # What a submission comes to

A submission comes to one of three things: a result, an error that the service reports, or a
failure. The rules below tell which of them from the reply to its one request. Whatever the
reply is, exactly one of them holds. -/

namespace CypherPages

/-- What a submission comes to. -/
inductive Conclusion
  | answered (result : QueryResult)
  /-- The service reports an error. -/
  | reported (message : Text)
  | failed (message : Text)

namespace Conclusion

def errorElement (text : Text) : Text :=
  "<div class=\"ladybug-error\">".toList ++ Html.escape text ++ "</div>".toList

/-- What is shown for a conclusion. A failure has a label, a reported error has none. -/
def content : Conclusion → Text
  | .answered result => Render.table result ++ Render.statsLine result.stats
  | .reported message => errorElement message
  | .failed message => errorElement ("ladybug-rs: ".toList ++ message)

end Conclusion

/-! ### Bodies -/

/-- A body is the text of a JSON object. -/
def IsObject (decoder : Json.Decoder) (body : Octets) (fields : List (Text × Json)) : Prop :=
  ∃ text, Encoding.decode decoder.half body = .ok text ∧
    Json.readDecoded decoder text = .ok (.object fields)

/-- The error of an object is missing, null or empty. -/
def ReportsNothing (fields : List (Text × Json)) : Prop :=
  fields.lookup "error".toList = none ∨ fields.lookup "error".toList = some .null ∨
    fields.lookup "error".toList = some (.string [])

/-- The error of an object is a text that is not empty. -/
def Reports (fields : List (Text × Json)) (message : Text) : Prop :=
  fields.lookup "error".toList = some (.string message) ∧ message ≠ []

/-- A body is no result, and what is said about it. -/
inductive BodyFault (decoder : Json.Decoder) (body : Octets) : Text → Prop
  | undecodable {detail : Text} (h : Encoding.decode decoder.half body = .error detail) :
    BodyFault decoder body ("invalid JSON in response: ".toList ++ detail)
  /-- The body is no JSON, or has an integer in it that is too long. -/
  | unreadable {text : Text} {failure : Json.Failure}
    (h : Encoding.decode decoder.half body = .ok text)
    (hread : Json.readDecoded decoder text = .error failure)
    (hfailure : ∀ container, failure ≠ .tooDeep container) :
    BodyFault decoder body ("invalid JSON in response: ".toList ++ failure.message text)
  /-- Reading the body runs out of stack. -/
  | tooDeep {text : Text} {container : Json.Container}
    (h : Encoding.decode decoder.half body = .ok text)
    (hread : Json.readDecoded decoder text = .error (.tooDeep container)) :
    BodyFault decoder body ("maximum recursion depth exceeded while decoding a JSON ".toList ++
      container.name.toList ++ " from a unicode string".toList)
  | notAnObject {text : Text} {value : Json} (h : Encoding.decode decoder.half body = .ok text)
    (hread : Json.readDecoded decoder text = .ok value)
    (hvalue : ∀ fields, value ≠ .object fields) :
    BodyFault decoder body
      ("expected a JSON object, got ".toList ++ (QueryResult.kindName value).toList)
  | misshapen {fields : List (Text × Json)} {count : ℕ} (h : IsObject decoder body fields)
    (hshape : QueryResult.ofFields fields = .error count) :
    BodyFault decoder body ("unexpected response shape (".toList ++ Text.decimal count ++
      " error(s))".toList)

/-! ### Replies -/

namespace Runner

section

variable (runner : Runner) (server : Request → Reply) (submission : Submission)

/-- The request of a submission meets with a reply. -/
def Meets (reply : Reply) : Prop := ∃ request ∈ runner.requests submission, server request = reply

/-- A response arrives from an address that names its host. It may state a reason phrase. -/
def Receives (status : ℤ) (reason : Option Text) (body : Octets) : Prop :=
  ∃ request ∈ runner.requests submission, request.url.isAbsolute = true ∧
    server request = .response status reason body

/-- A successful response brings an object of the shape of a result. -/
inductive Delivers : List (Text × Json) → QueryResult → Prop
  | intro {status : ℤ} {reason : Option Text} {body : Octets} {fields : List (Text × Json)}
    {result : QueryResult} (h : runner.Receives server submission status reason body)
    (hstatus : 200 ≤ status ∧ status ≤ 299) (hbody : IsObject runner.decoder body fields)
    (hshape : QueryResult.ofFields fields = .ok result) :
    Delivers fields result

/-- A submission brings no result, and what is said about it. -/
inductive FailsWith : Text → Prop
  | timeout (h : leavesTime runner.timeout = false ∨ runner.Meets server submission .gaveUp ∨
      runner.Meets server submission .silence) : FailsWith "timeout".toList
  /-- The reason of a response is the one that it states, else that of its status. -/
  | status {status : ℤ} {reason : Option Text} {body : Octets}
    (h : runner.Receives server submission status reason body)
    (hstatus : ¬ (200 ≤ status ∧ status ≤ 299)) :
    FailsWith ("HTTP ".toList ++ Text.signedDecimal status ++ ": ".toList ++
      reason.getD (Http.reason status))
  | body {status : ℤ} {reason : Option Text} {body : Octets} {message : Text}
    (h : runner.Receives server submission status reason body)
    (hstatus : 200 ≤ status ∧ status ≤ 299) (hbody : BodyFault runner.decoder body message) :
    FailsWith message
  | transport {kind message : Text}
    (h : runner.Meets server submission (.failed kind message)) :
    FailsWith (if message = [] then kind else message)
  | crash {kind message : Text}
    (h : runner.Meets server submission (.crashed kind message)) :
    FailsWith (if message = [] then kind else message)
  /-- The endpoint makes no address that can be called. -/
  | unsent {error : QueryError} (h : leavesTime runner.timeout = true)
    (hsubmit : Request.submit submission.endpoint submission.query = .error error) :
    FailsWith error.message
  /-- A response cannot be taken from an address that does not name its host. -/
  | unknownHost {request : Request} {status : ℤ} {reason : Option Text} {body : Octets}
    (hmem : request ∈ runner.requests submission) (hurl : request.url.isAbsolute = false)
    (h : server request = .response status reason body) :
    FailsWith ("unknown url type: ".toList ++ request.url.toText.quoted)

/-- What a submission comes to. -/
inductive Concludes : Conclusion → Prop
  | answered {fields : List (Text × Json)} {result : QueryResult}
    (h : runner.Delivers server submission fields result) (herror : ReportsNothing fields) :
    Concludes (.answered result)
  | reported {fields : List (Text × Json)} {result : QueryResult} {message : Text}
    (h : runner.Delivers server submission fields result) (herror : Reports fields message) :
    Concludes (.reported message)
  | failed {message : Text}
    (h : ∀ fields result, ¬ runner.Delivers server submission fields result)
    (hfails : runner.FailsWith server submission message) : Concludes (.failed message)

end

end Runner

/-! ### Reading a body -/

namespace QueryResult

variable {fields : List (Text × Json)} {result : QueryResult}

/-- The error of a result is the error of its object. -/
theorem error_of_ofFields (h : ofFields fields = .ok result) :
    Checked.optional Checked.text (fields.lookup "error".toList) = .ok result.error := by
  obtain ⟨found, hboth, rfl⟩ := exists_of_map_eq_ok h
  obtain ⟨-, hrest⟩ := Checked.both_eq_ok hboth
  exact (Checked.both_eq_ok hrest).2

theorem hasError_of_reportsNothing (h : ofFields fields = .ok result)
    (herror : ReportsNothing fields) : result.hasError = false := by
  have hfield := error_of_ofFields h
  rcases herror with hlookup | hlookup | hlookup
  all_goals
    rw [hlookup] at hfield
    rw [hasError, ← Except.ok.inj hfield]
    rfl

theorem error_of_reports {message : Text} (h : ofFields fields = .ok result)
    (herror : Reports fields message) : result.error = some message := by
  have hfield := error_of_ofFields h
  rw [herror.1] at hfield
  exact (Except.ok.inj hfield).symm

/-- An object of the shape of a result reports a text, or nothing. -/
theorem reports_of_ofFields (h : ofFields fields = .ok result) :
    if result.hasError then Reports fields (result.error.getD []) else ReportsNothing fields := by
  have hfield := error_of_ofFields h
  unfold ReportsNothing Reports hasError
  cases hlookup : fields.lookup "error".toList with
  | none =>
      rw [hlookup] at hfield
      rw [← Except.ok.inj hfield]
      simp
  | some value =>
      rw [hlookup] at hfield
      cases value with
      | null =>
          rw [← Except.ok.inj hfield]
          simp
      | string message =>
          rw [← Except.ok.inj hfield]
          by_cases hne : message = [] <;> simp [hne]
      | bool | int | float | array | object => cases hfield

end QueryResult

theorem readBody_eq_ok_iff {decoder : Json.Decoder} {body : Octets} {result : QueryResult} :
    readBody decoder body = .ok result ↔
      ∃ fields, IsObject decoder body fields ∧ QueryResult.ofFields fields = .ok result := by
  unfold readBody IsObject
  cases Encoding.decode decoder.half body with
  | error detail => simp
  | ok text =>
      cases hread : Json.readDecoded decoder text with
      | error failure => simp [hread]
      | ok value =>
          cases value with
          | object fields =>
              cases hshape : QueryResult.ofFields fields <;>
                simp [hread, QueryResult.ofPayload, hshape, Except.mapError]
          | null | bool | int | float | string | array =>
              simp [hread, QueryResult.ofPayload, Except.mapError]

theorem bodyFault_iff {decoder : Json.Decoder} {body : Octets} {message : Text} :
    BodyFault decoder body message ↔
      ∃ error, readBody decoder body = .error error ∧ error.message = message := by
  constructor
  · intro h
    cases h with
    | undecodable h => exact ⟨_, by simp only [readBody, h]; rfl, rfl⟩
    | @unreadable text failure h hread hfailure =>
        refine ⟨.shape (.unreadable (failure.message text)), ?_, rfl⟩
        cases failure with
        | tooDeep container => exact absurd rfl (hfailure container)
        | malformed | overlong => simp only [readBody, h, hread, QueryError.ofFailure]
    | tooDeep h hread => exact ⟨_, by simp only [readBody, h, hread]; rfl, rfl⟩
    | notAnObject h hread hvalue =>
        refine ⟨.shape (.notAnObject (QueryResult.kindName _).toList), ?_, rfl⟩
        simp only [readBody, h, hread, QueryResult.ofPayload]
        rfl
    | misshapen h hshape =>
        obtain ⟨text, htext, hread⟩ := h
        exact ⟨_, by simp only [readBody, htext, hread, QueryResult.ofPayload, hshape]; rfl, rfl⟩
  · rintro ⟨error, h, rfl⟩
    unfold readBody at h
    split at h
    · next hdecode =>
        cases h
        exact .undecodable hdecode
    · next hdecode =>
        split at h
        · next failure hread =>
            cases h
            cases failure with
            | tooDeep container => exact .tooDeep hdecode hread
            | malformed | overlong => exact .unreadable hdecode hread nofun
        · next value hread =>
            obtain ⟨problem, hpayload, rfl⟩ := exists_of_mapError_eq_error h
            unfold QueryResult.ofPayload at hpayload
            split at hpayload
            · next fields =>
                split at hpayload
                · cases hpayload
                · next hshape =>
                    cases hpayload
                    exact .misshapen ⟨_, hdecode, hread⟩ hshape
            · next hvalue =>
                cases hpayload
                exact .notAnObject hdecode hread hvalue

/-! ### The outcome of a submission -/

theorem Http.isSuccess_iff {status : ℤ} :
    Http.isSuccess status = true ↔ 200 ≤ status ∧ status ≤ 299 := by
  simp [Http.isSuccess]

namespace Runner

variable {runner : Runner} {server : Request → Reply} {submission : Submission}

theorem mem_requests {request : Request} : request ∈ runner.requests submission ↔
    prepare runner.timeout submission.endpoint submission.query = .ok request := by
  unfold requests requestsFor
  cases prepare runner.timeout submission.endpoint submission.query with
  | error error => simp [Except.toOption]
  | ok made => simp [Except.toOption, eq_comm]

theorem length_requests_le (runner : Runner) (submission : Submission) :
    (runner.requests submission).length ≤ 1 := by
  unfold requests requestsFor
  cases prepare runner.timeout submission.endpoint submission.query <;>
    simp [Except.toOption]

/-- The outcome of a submission to a server. -/
def outcomeOf (runner : Runner) (server : Request → Reply) (submission : Submission) :
    Except QueryError QueryResult :=
  queryOutcome runner.timeout runner.decoder submission.endpoint submission.query server

theorem outcomeOf_of_mem {request : Request} (h : request ∈ runner.requests submission) :
    runner.outcomeOf server submission =
      (server request).outcome runner.timeout runner.decoder request.url := by
  rw [outcomeOf, queryOutcome, mem_requests.mp h]
  rfl

theorem outcomeOf_of_error {error : QueryError}
    (h : prepare runner.timeout submission.endpoint submission.query = .error error) :
    runner.outcomeOf server submission = .error error := by
  rw [outcomeOf, queryOutcome, h]
  rfl

theorem prepare_of_noTime (h : leavesTime runner.timeout = false) (endpoint query : Text) :
    prepare runner.timeout endpoint query = .error (.timeout runner.timeout) := by
  rw [prepare, h, if_neg Bool.false_ne_true]

theorem outcomeOf_of_receives {status : ℤ} {reason : Option Text} {body : Octets}
    (h : runner.Receives server submission status reason body) :
    runner.outcomeOf server submission =
      if 200 ≤ status ∧ status ≤ 299 then readBody runner.decoder body
      else .error (.status status (Http.reasonPhrase reason status)) := by
  obtain ⟨request, hmem, hurl, hreply⟩ := h
  rw [outcomeOf_of_mem hmem, hreply, Reply.outcome, hurl]
  simp only [Bool.not_true, Bool.false_eq_true, ite_false, Http.isSuccess_iff]

theorem outcomeOf_of_delivers {fields : List (Text × Json)} {result : QueryResult}
    (h : runner.Delivers server submission fields result) :
    runner.outcomeOf server submission = .ok result := by
  obtain ⟨hreceives, hstatus, hbody, hshape⟩ := h
  rw [outcomeOf_of_receives hreceives, if_pos hstatus, readBody_eq_ok_iff.mpr ⟨_, hbody, hshape⟩]

theorem messageOrKind_eq (kind message : Text) :
    messageOrKind kind message = if message = [] then kind else message := by
  simp only [messageOrKind, List.isEmpty_iff]

theorem outcomeOf_of_failsWith {message : Text} (h : runner.FailsWith server submission message) :
    ∃ error, runner.outcomeOf server submission = .error error ∧ error.message = message := by
  cases h with
  | timeout h =>
      refine ⟨.timeout runner.timeout, ?_, rfl⟩
      rcases h with htime | ⟨request, hmem, hreply⟩ | ⟨request, hmem, hreply⟩
      · exact outcomeOf_of_error (prepare_of_noTime htime _ _)
      all_goals rw [outcomeOf_of_mem hmem, hreply, Reply.outcome]
  | @status status reason body h hstatus =>
      refine ⟨.status status (Http.reasonPhrase reason status), ?_, rfl⟩
      rw [outcomeOf_of_receives h, if_neg hstatus]
  | body h hstatus hbody =>
      obtain ⟨error, hread, rfl⟩ := bodyFault_iff.mp hbody
      exact ⟨error, by rw [outcomeOf_of_receives h, if_pos hstatus, hread], rfl⟩
  | @transport kind message h =>
      obtain ⟨request, hmem, hreply⟩ := h
      refine ⟨.transport (messageOrKind kind message), ?_, messageOrKind_eq kind message⟩
      rw [outcomeOf_of_mem hmem, hreply, Reply.outcome]
  | @crash kind message h =>
      obtain ⟨request, hmem, hreply⟩ := h
      refine ⟨.unexpected kind message, ?_, messageOrKind_eq kind message⟩
      rw [outcomeOf_of_mem hmem, hreply, Reply.outcome]
  | unsent h hsubmit =>
      exact ⟨_, outcomeOf_of_error (by rw [prepare, h, if_pos rfl, hsubmit]), rfl⟩
  | @unknownHost request status reason body hmem hurl h =>
      refine ⟨.unknownHost request.url.toText, ?_, rfl⟩
      rw [outcomeOf_of_mem hmem, h, Reply.outcome, hurl, Bool.not_false, if_pos rfl]

/-- Whatever a submission meets with, it brings a result or fails with a message. -/
theorem delivers_or_failsWith (runner : Runner) (server : Request → Reply)
    (submission : Submission) :
    (∃ fields result, runner.Delivers server submission fields result) ∨
      ∃ message, runner.FailsWith server submission message := by
  cases hprepare : prepare runner.timeout submission.endpoint submission.query with
  | error error =>
      right
      cases htime : leavesTime runner.timeout with
      | false => exact ⟨_, .timeout (.inl htime)⟩
      | true =>
          rw [prepare, htime, if_pos rfl] at hprepare
          exact ⟨_, .unsent htime hprepare⟩
  | ok request =>
      have hmem := mem_requests.mpr hprepare
      cases hreply : server request with
      | gaveUp => exact .inr ⟨_, .timeout (.inr (.inl ⟨request, hmem, hreply⟩))⟩
      | silence => exact .inr ⟨_, .timeout (.inr (.inr ⟨request, hmem, hreply⟩))⟩
      | failed kind message => exact .inr ⟨_, .transport ⟨request, hmem, hreply⟩⟩
      | crashed kind message => exact .inr ⟨_, .crash ⟨request, hmem, hreply⟩⟩
      | response status reason body =>
          cases hurl : request.url.isAbsolute with
          | false => exact .inr ⟨_, .unknownHost hmem hurl hreply⟩
          | true =>
              have hreceives : runner.Receives server submission status reason body :=
                ⟨request, hmem, hurl, hreply⟩
              by_cases hstatus : 200 ≤ status ∧ status ≤ 299
              · cases hread : readBody runner.decoder body with
                | ok result =>
                    obtain ⟨fields, hbody, hshape⟩ := readBody_eq_ok_iff.mp hread
                    exact .inl ⟨fields, result, .intro hreceives hstatus hbody hshape⟩
                | error error =>
                    have hfault := bodyFault_iff.mpr ⟨error, hread, rfl⟩
                    exact .inr ⟨_, .body hreceives hstatus hfault⟩
              · exact .inr ⟨_, .status hreceives hstatus⟩

end Runner

/-! ### Exactly one conclusion -/

namespace Conclusion

def ofOutcome : Except QueryError QueryResult → Conclusion
  | .ok result =>
    if result.hasError then .reported (result.error.getD []) else .answered result
  | .error error => .failed error.message

theorem content_ofOutcome (outcome : Except QueryError QueryResult) :
    (ofOutcome outcome).content = Render.outcome outcome := by
  cases outcome with
  | error error => rfl
  | ok result =>
      rw [ofOutcome, Render.outcome, Render.result]
      split <;> rfl

end Conclusion

namespace Runner

variable {runner : Runner} {server : Request → Reply} {submission : Submission}

theorem ofOutcome_of_concludes {conclusion : Conclusion}
    (h : runner.Concludes server submission conclusion) :
    Conclusion.ofOutcome (runner.outcomeOf server submission) = conclusion := by
  cases h with
  | answered h herror =>
      rw [outcomeOf_of_delivers h, Conclusion.ofOutcome]
      obtain ⟨-, -, -, hshape⟩ := h
      rw [QueryResult.hasError_of_reportsNothing hshape herror, if_neg Bool.false_ne_true]
  | reported h herror =>
      rw [outcomeOf_of_delivers h, Conclusion.ofOutcome]
      obtain ⟨-, -, -, hshape⟩ := h
      have hmessage := QueryResult.error_of_reports hshape herror
      rw [if_pos (Render.hasError_iff.mpr ⟨_, hmessage, herror.2⟩), hmessage, Option.getD_some]
  | failed h hfails =>
      obtain ⟨error, houtcome, rfl⟩ := outcomeOf_of_failsWith hfails
      rw [houtcome, Conclusion.ofOutcome]

/-- An answer was read from a body, so the integers in it can be written. -/
theorem writable_of_concludes {result : QueryResult}
    (h : runner.Concludes server submission (.answered result)) : result.Writable := by
  cases h with
  | answered h =>
      obtain ⟨-, -, ⟨text, -, hread⟩, hshape⟩ := h
      exact QueryResult.writable_of_ofFields (Json.fits_readDecoded hread) hshape

theorem not_delivers_of_failsWith {message : Text}
    (h : runner.FailsWith server submission message) (fields : List (Text × Json))
    (result : QueryResult) : ¬ runner.Delivers server submission fields result := by
  intro hdelivers
  obtain ⟨error, houtcome, -⟩ := outcomeOf_of_failsWith h
  rw [outcomeOf_of_delivers hdelivers] at houtcome
  cases houtcome

theorem exists_concludes (runner : Runner) (server : Request → Reply) (submission : Submission) :
    ∃ conclusion, runner.Concludes server submission conclusion := by
  by_cases hdelivers : ∃ fields result, runner.Delivers server submission fields result
  · obtain ⟨fields, result, h⟩ := hdelivers
    obtain ⟨-, -, -, hshape⟩ := id h
    have hreports := QueryResult.reports_of_ofFields hshape
    split at hreports
    · exact ⟨_, .reported h hreports⟩
    · exact ⟨_, .answered h hreports⟩
  · obtain ⟨message, hfails⟩ :=
      (runner.delivers_or_failsWith server submission).resolve_left hdelivers
    exact ⟨_, .failed (fun fields result h => hdelivers ⟨fields, result, h⟩) hfails⟩

theorem concludes_iff {conclusion : Conclusion} : runner.Concludes server submission conclusion ↔
    conclusion = Conclusion.ofOutcome (runner.outcomeOf server submission) := by
  constructor
  · exact fun h => (ofOutcome_of_concludes h).symm
  · rintro rfl
    obtain ⟨found, h⟩ := runner.exists_concludes server submission
    rwa [ofOutcome_of_concludes h]

end Runner

end CypherPages
