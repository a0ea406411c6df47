import HttpContract.Proofs.Endpoint.Message
import HttpContract.Proofs.Part.Fault

/-!
# The default status

A response that names no status has the default one. The default status and the range of the statuses that count as success
are settings of their own, each looked at without the other (`Settings.fault?_eq_none_iff`), and only the first can be given
by the environment (`Config.range_of_ofEnvironment`). Reading a response fails with its status just if that is no success, so
an endpoint refuses its own responses for their status exactly if the default status lies outside the range. Main statement:
`refusesStatus_iff_of_encodeResponse`.
-/

namespace HttpContract

/-! ## Settings -/

/-- Settings without a fault: the content type is not blank, the range of success lies among the statuses and is not empty, and
the default status is one of all statuses, whether it is in the range or not. -/
theorem Settings.fault?_eq_none_iff {s : Settings} :
    s.fault? = none ↔ Text.trimWhile Text.isBlank s.contentType.toList ≠ [] ∧
      (leastStatus ≤ s.successMin ∧ s.successMin < s.successBound ∧ s.successBound ≤ statusBound) ∧
      leastStatus ≤ s.defaultStatus ∧ s.defaultStatus < statusBound := by
  unfold fault?
  constructor
  · intro h
    split at h
    · cases h
    · rename_i hblank
      split at h
      · cases h
      · rename_i hrange
        split at h
        · cases h
        · rename_i hstatus
          simp only [Bool.not_eq_true', Bool.not_eq_false, Bool.and_eq_true, decide_eq_true_eq, and_assoc] at hrange hstatus
          exact ⟨fun hnil => hblank (List.isEmpty_iff.2 hnil), hrange, hstatus⟩
  · rintro ⟨hblank, hrange, hstatus⟩
    rw [if_neg (fun hempty => hblank (List.isEmpty_iff.1 hempty)), if_neg (by simp [hrange]), if_neg (by simp [hstatus])]

namespace Config

variable {config : Config} {environment : List (String × String)}

theorem isSuccess_iff {status : Int} :
    config.isSuccess status = true ↔ config.settings.successMin ≤ status ∧ status < config.settings.successBound := by
  rw [isSuccess, Bool.and_eq_true, decide_eq_true_eq, decide_eq_true_eq]

/-- A configuration has the settings that it is made of. -/
theorem settings_of_ofSettings {s : Settings} (h : ofSettings s = .ok config) : config.settings = s := by
  unfold ofSettings at h
  split at h
  · cases h
    rfl
  · cases h

/-- The environment leaves the range of success as it is. -/
theorem range_of_ofEnvironment (h : ofEnvironment environment = .ok config) :
    config.settings.successMin = Settings.default.successMin ∧
      config.settings.successBound = Settings.default.successBound := by
  obtain ⟨status, _, h⟩ := Outcome.bind_eq_ok_iff.1 h
  rw [settings_of_ofSettings h]
  exact ⟨rfl, rfl⟩

end Config

/-! ## Responses -/

/-- Reading a body never fails with a status. -/
theorem BodyPart.decode_ne_status (p : BodyPart) (payload : List UInt8) (code : Int) :
    p.decode payload ≠ .error (.status code) := by
  intro h
  cases p with
  | empty => cases h
  | newtype s =>
    simp only [decode] at h
    split at h <;> cases h
  | aggregate r =>
    simp only [decode] at h
    split at h
    · obtain ⟨_, _, h⟩ := Outcome.mapError_eq_error_iff.1 h
      cases h
    · cases h

namespace Endpoint

variable {d : Description} {config : Config} {e : Endpoint} {input : Value} {raw : RawResponse}

/-- Reading a response fails with a status exactly if its own is no success, and then with that. -/
theorem decodeResponse_eq_status_iff {code : Int} :
    e.decodeResponse raw = .error (.status code) ↔ e.config.isSuccess raw.status = false ∧ code = raw.status := by
  unfold decodeResponse
  cases hsuccess : e.config.isSuccess raw.status with
  | false => simp [eq_comm]
  | true =>
    simp only [if_true, Bool.true_eq_false, false_and, iff_false]
    intro h
    rcases Outcome.bind_eq_error_iff.1 h with hheaders | ⟨headers, _, h⟩
    · cases HeaderPart.part?_of_decode hheaders
    · rcases Outcome.bind_eq_error_iff.1 h with hbody | ⟨body, _, h⟩
      · exact BodyPart.decode_ne_status _ _ _ hbody
      · obtain ⟨_, _, h⟩ := Outcome.mapError_eq_error_iff.1 h
        cases h

/-- A response without a status of its own is refused for its status by the endpoint that wrote it exactly if the default
status lies outside the range of success, and then it is refused with the default status. With a configuration of the
environment, which leaves the range as it is, it is read exactly if the default status is one from 200 to 299. -/
theorem refusesStatus_iff_of_encodeResponse (compiled : compile d config = .ok e)
    (written : e.encodeResponse input none = .ok raw) :
    raw.status = config.settings.defaultStatus ∧
    (∀ code, e.decodeResponse raw = .error (.status code) ↔ code = config.settings.defaultStatus ∧
      ¬(config.settings.successMin ≤ config.settings.defaultStatus ∧
        config.settings.defaultStatus < config.settings.successBound)) ∧
    ((∀ code, e.decodeResponse raw ≠ .error (.status code)) ↔
      config.settings.successMin ≤ config.settings.defaultStatus ∧
        config.settings.defaultStatus < config.settings.successBound) ∧
    ∀ environment, Config.ofEnvironment environment = .ok config →
      ((∀ code, e.decodeResponse raw ≠ .error (.status code)) ↔
        200 ≤ config.settings.defaultStatus ∧ config.settings.defaultStatus < 300) := by
  obtain ⟨_, hconfig⟩ := given_of_compile compiled
  obtain ⟨values, _, hwritten⟩ := exists_of_encodeResponse written
  have hstatus : raw.status = config.settings.defaultStatus := by
    rw [hwritten.status, hconfig]
    rfl
  have hrefused : ∀ code, e.decodeResponse raw = .error (.status code) ↔ code = config.settings.defaultStatus ∧
      ¬(config.settings.successMin ≤ config.settings.defaultStatus ∧
        config.settings.defaultStatus < config.settings.successBound) := by
    intro code
    rw [decodeResponse_eq_status_iff, hstatus, hconfig, ← Config.isSuccess_iff, Bool.not_eq_true, and_comm]
  have hread : (∀ code, e.decodeResponse raw ≠ .error (.status code)) ↔
      config.settings.successMin ≤ config.settings.defaultStatus ∧
        config.settings.defaultStatus < config.settings.successBound := by
    constructor
    · intro hnone
      by_contra hout
      exact hnone _ ((hrefused _).2 ⟨rfl, hout⟩)
    · intro hin code hcode
      exact ((hrefused code).1 hcode).2 hin
  refine ⟨hstatus, hrefused, hread, fun environment henvironment => ?_⟩
  obtain ⟨hmin, hbound⟩ := Config.range_of_ofEnvironment henvironment
  rw [hread, hmin, hbound]
  rfl

/-- A route that gives the reason why there is nothing. -/
def reasonRoute : Description where
  metadata := ⟨.get, "reason", "", "/reason", false, false⟩
  request := []
  response := [⟨"reason", .text "str", []⟩]

/-- The default settings with another status for responses that name none. -/
def defaultsWith (status : Int) : Settings := { Settings.default with defaultStatus := status }

/-- The endpoint of reasons. -/
def reasonEndpoint (config : Config) : Endpoint where
  metadata := reasonRoute.metadata
  contract := ⟨⟨"request", []⟩, ⟨"response", [⟨"reason", .known .str, .body, "response.reason"⟩]⟩,
    ⟨"/reason", [.literal "reason"]⟩⟩
  config := config
  requestRecord := ⟨"ReasonRequest", []⟩
  responseRecord := ⟨"ReasonResponse", [⟨"reason", .str⟩]⟩
  path := ⟨[.literal "reason"]⟩
  query := none
  requestHeaders := ⟨[]⟩
  requestBody := .empty
  responseHeaders := ⟨[]⟩
  responseBody := .aggregate ⟨"ReasonResponseBody", [⟨"reason", .str⟩]⟩

theorem compile_reason (config : Config) : compile reasonRoute config = .ok (reasonEndpoint config) := rfl

/-- A reason that is given with the status 202 of the environment is no failure for the endpoint that gave it. -/
theorem reads_accepted :
    ∃ config raw, Config.ofEnvironment [("WIRESPEC_DEFAULT_RESPONSE_STATUS", "202")] = .ok config ∧
      compile reasonRoute config = .ok (reasonEndpoint config) ∧
      (reasonEndpoint config).encodeResponse (.object [("reason", .text "late")]) none = .ok raw ∧ raw.status = 202 ∧
      ∀ code, (reasonEndpoint config).decodeResponse raw ≠ .error (.status code) := by
  have henvironment : Config.ofEnvironment [("WIRESPEC_DEFAULT_RESPONSE_STATUS", "202")] = .ok ⟨defaultsWith 202, rfl⟩ := by
    rfl
  have hwritten : (reasonEndpoint ⟨defaultsWith 202, rfl⟩).encodeResponse (.object [("reason", .text "late")]) none =
      .ok ⟨202, [("Content-Type", "application/json")], Text.utf8 "\x7b\"reason\":\"late\"\x7d"⟩ := by rfl
  obtain ⟨hstatus, _, _, hread⟩ := refusesStatus_iff_of_encodeResponse (compile_reason _) hwritten
  exact ⟨_, _, henvironment, compile_reason _, hwritten, hstatus, (hread _ henvironment).2 (by decide)⟩

/-- A reason that is given with the status 404 of the environment is refused by the endpoint that gave it. -/
theorem refuses_notFound :
    ∃ config raw, Config.ofEnvironment [("WIRESPEC_DEFAULT_RESPONSE_STATUS", "404")] = .ok config ∧
      compile reasonRoute config = .ok (reasonEndpoint config) ∧
      (reasonEndpoint config).encodeResponse (.object [("reason", .text "gone")]) none = .ok raw ∧
      (reasonEndpoint config).decodeResponse raw = .error (.status 404) := by
  refine ⟨⟨defaultsWith 404, rfl⟩,
    ⟨404, [("Content-Type", "application/json")], Text.utf8 "\x7b\"reason\":\"gone\"\x7d"⟩, by rfl, compile_reason _, by rfl,
    by rfl⟩

end Endpoint

end HttpContract
