import ServletFilters.Container.Client
import ServletFilters.Http.Server
import ServletFilters.Proofs.Container.Starts

/-!
What the server answers. Every response carries the number of its request exactly once, also where
components wrote one of their own. A request that was not serviced is answered by its failure alone:
nothing that components wrote, and nothing that they broke off with, can be told from the response,
`handle_answers`.
-/

namespace ServletFilters

section Caught

variable {body : Run α} {s t : Container}

theorem Run.caught_of_ok {a : α} (h : body s = (.ok a, t)) : body.caught s = (.ok (.ok a), t) := by
  rw [Run.caught, h]

theorem Run.caught_of_panic {message : String} (h : body s = (.error (.panic message), t)) :
    body.caught s = (.ok (.error message), t) := by
  rw [Run.caught, h]

theorem Run.caught_of_exhausted (h : body s = (.error .exhausted, t)) :
    body.caught s = (.error .exhausted, t) := by
  rw [Run.caught, h]

end Caught

namespace Http

/-! ### The number of a request -/

/-- How a number made at random is written: hexadecimal digits in five groups, the first of the
third one tells the version, the first of the fourth one the variant. -/
def uuidShape : List Char := "xxxxxxxx-xxxx-4xxx-yxxx-xxxxxxxxxxxx".toList

def fitsUuid (place c : Char) : Bool :=
  if place = 'x' then "0123456789abcdef".toList.contains c
  else if place = 'y' then "89ab".toList.contains c
  else c == place

def IsUuid (s : String) : Prop :=
  List.Forall₂ (fun place c => fitsUuid place c = true) uuidShape s.toList

instance (s : String) : Decidable (IsUuid s) := inferInstanceAs (Decidable (List.Forall₂ ..))

theorem isFieldChar_of_fitsUuid {place c : Char} (listed : place ∈ uuidShape)
    (fits : fitsUuid place c = true) : isFieldChar c = true := by
  have digits : isFieldText "0123456789abcdef" = true := by decide +kernel
  have variants : isFieldText "89ab" = true := by decide +kernel
  have places : uuidShape.all isFieldChar = true := by decide +kernel
  unfold fitsUuid at fits
  split at fits
  · exact List.all_eq_true.1 digits c (List.contains_iff_mem.1 fits)
  split at fits
  · exact List.all_eq_true.1 variants c (List.contains_iff_mem.1 fits)
  · rw [eq_of_beq fits]
    exact List.all_eq_true.1 places place listed

theorem IsUuid.isFieldText {s : String} (h : IsUuid s) : isFieldText s = true := by
  refine List.all_eq_true.2 fun c within => ?_
  obtain ⟨i, inside, rfl⟩ := List.getElem_of_mem within
  have inside' : i < uuidShape.length := h.length_eq ▸ inside
  exact isFieldChar_of_fitsUuid (List.getElem_mem inside') (h.get inside' inside)

theorem isFieldChar_of_isTextByte {b : UInt8} (text : isTextByte b = true) :
    isFieldChar (Char.ofNat b.toNat) = true := by
  have each : ∀ n : Fin 256, isTextByte (UInt8.ofNat n) = true → isFieldChar (Char.ofNat n) = true := by
    decide +kernel
  have := each ⟨b.toNat, b.toNat_lt⟩
  rw [UInt8.ofNat_toNat] at this
  exact this text

/-- A value that can be read can be written again. -/
theorem isFieldText_of_fieldText? {value : List UInt8} {text : String}
    (readable : fieldText? value = some text) : isFieldText text = true := by
  unfold fieldText? at readable
  split at readable
  · rename_i plain
    obtain rfl := Option.some.inj readable
    simp only [isFieldText, String.toList_ofList, List.all_map, List.all_eq_true] at plain ⊢
    exact fun b there => isFieldChar_of_isTextByte (plain b there)
  · cases readable

namespace Incoming

variable {r : Incoming} {freshId : String}

/-- The number that the request goes by, if this one was made for it. -/
def idOr (r : Incoming) (freshId : String) : String := r.requestId?.getD freshId

theorem requestId?_of_first {value : List UInt8} {text : String}
    (first : r.first? requestIdHeader = some value) (readable : fieldText? value = some text)
    (filled : text ≠ "") : r.requestId? = some text := by
  rw [requestId?, first, Option.bind_some, readable]
  exact Option.filter_some_pos (by simpa using filled)

theorem first_of_requestId? {id : String} (found : r.requestId? = some id) :
    id ≠ "" ∧ ∃ value, r.first? requestIdHeader = some value ∧ fieldText? value = some id := by
  obtain ⟨found, filled⟩ := Option.filter_eq_some_iff.1 found
  obtain ⟨value, first, readable⟩ := Option.bind_eq_some_iff.1 found
  exact ⟨by simpa using filled, value, first, readable⟩

theorem adapt_uri {id : String} {maxBody : Nat} {spec : RequestSpec}
    (accepted : r.adapt id maxBody = .ok spec) : spec.uri = r.target := by
  unfold adapt at accepted
  split at accepted
  · cases accepted
  split at accepted
  · cases accepted
  · cases accepted
    rfl

theorem idOr_isFieldText (uuid : IsUuid freshId) : isFieldText (r.idOr freshId) = true := by
  unfold idOr
  cases brought : r.requestId? with
  | none => exact uuid.isFieldText
  | some id =>
    obtain ⟨-, value, -, readable⟩ := first_of_requestId? brought
    exact isFieldText_of_fieldText? readable

end Incoming

/-! ### Responses with a number -/

namespace Outgoing

variable {id : String}

/-- The response for a request that was serviced; of the headers that components wrote, it has
those that can go out and are not the number of a request. -/
def written (response : Response) (id : String) : Outgoing where
  status := statusOf response.status
  headers := (response.headers.filterMap fun h => writtenHeader? h.1 h.2).filter
    (fun h => h.1 != requestIdHeader) ++ [(requestIdHeader, id)]
  body := response.body

/-- The response for a request that was not serviced. -/
def refusing (status : Nat) (text id : String) : Outgoing where
  status
  headers := [("content-type", "text/plain; charset=utf-8"), (requestIdHeader, id)]
  body := utf8 text

theorem ofResponse_eq (plain : isFieldText id = true) (response : Response) :
    ofResponse response id = written response id := by
  rw [ofResponse, withRequestId, if_pos plain]
  rfl

theorem ofError_eq (plain : isFieldText id = true) (status : Nat) (message : String) :
    ofError status message id = refusing status message id := by
  rw [ofError, withRequestId, if_pos plain]
  rfl

theorem written_values (response : Response) (id : String) :
    (written response id).values requestIdHeader = [id] := by
  simp [written, values]

theorem refusing_values (status : Nat) (text id : String) :
    (refusing status text id).values requestIdHeader = [id] := rfl

end Outgoing

/-! ### What becomes of a request -/

inductive Fate where
  | serviced
  /-- The pipeline has no servlet for the path. -/
  | unmapped
  | failed (failure : Failure)
  /-- A component broke off all that was going on. -/
  | brokenOff (message : String)
  | rejected (e : AdaptError)
  deriving DecidableEq

namespace Fate

/-- Status and text of the answer to a request that was not serviced. -/
def refusal? : Fate → Option (Nat × String)
  | .serviced => none
  | .unmapped => some (404, "No servlet mapped for path")
  | .failed _ | .brokenOff _ => some (500, "Internal Server Error")
  | .rejected (.bodyTooLarge limit) =>
    some (413, "request body exceeds " ++ toString limit ++ " bytes")
  | .rejected (.brokenBody reason) => some (400, "failed to read request body: " ++ reason)

/-- What the result of servicing comes to, unless components called each other too deeply. -/
def ofService? : Except Halt (Except ServiceError Unit) → Option Fate
  | .ok (.ok ()) => some .serviced
  | .ok (.error (.notFound _)) => some .unmapped
  | .ok (.error (.chain failure)) => some (.failed failure)
  | .error (.panic message) => some (.brokenOff message)
  | .error .exhausted => none

/-- What went wrong while a request was serviced does not show in the answer. -/
theorem refusal?_ofService {result : Except Halt (Except ServiceError Unit)} {fate : Fate}
    (is : ofService? result = some fate) (unserviced : fate ≠ .serviced) :
    fate.refusal? = some (if fate = .unmapped then (404, "No servlet mapped for path")
      else (500, "Internal Server Error")) := by
  rcases result with (message | _) | (path | failure) | done <;> cases is
  case ok.ok => exact absurd rfl unserviced
  all_goals rfl

end Fate

namespace Server

variable (levels : Nat) (server : Server) (freshId : String) (r : Incoming) (s : Container)

/-- The servicing of a request that was accepted. -/
def servicing (spec : RequestSpec) : Except Halt (Except ServiceError Unit) × Container :=
  Pipeline.service levels server.pipeline (s.openRequest spec)

def fate? : Option Fate :=
  match r.adapt (r.idOr freshId) server.maxBody with
  | .error e => some (.rejected e)
  | .ok spec => Fate.ofService? (server.servicing levels s spec).1

/-- The pipeline of the server is there and has no servlet for the path of this address. -/
def Lacks (target : String) : Prop :=
  ∃ x, s.pipelines.find? server.pipeline = some x ∧
    x.registry.mapServlet (Request.splitUri target).1 = none

variable {levels server freshId r s}

theorem fate?_rejected {e : AdaptError} (refused : r.adapt (r.idOr freshId) server.maxBody = .error e) :
    server.fate? levels freshId r s = some (.rejected e) := by
  rw [fate?, refused]

theorem fate?_accepted {spec : RequestSpec}
    (accepted : r.adapt (r.idOr freshId) server.maxBody = .ok spec) :
    server.fate? levels freshId r s = Fate.ofService? (server.servicing levels s spec).1 := by
  rw [fate?, accepted]

/-- A request is answered as its servicing ended, or as it was refused. -/
theorem handle_cases (levels : Nat) (server : Server) (freshId : String) (r : Incoming)
    (s : Container) :
    (server.fate? levels freshId r s = none ∧
        (server.handle levels freshId r s).1 = .error .exhausted) ∨
      (∃ spec, r.adapt (r.idOr freshId) server.maxBody = .ok spec ∧
        server.fate? levels freshId r s = some .serviced ∧
        (server.handle levels freshId r s).1 =
          .ok (.ofResponse (server.servicing levels s spec).2.response (r.idOr freshId))) ∨
      ∃ fate status text, server.fate? levels freshId r s = some fate ∧
        fate.refusal? = some (status, text) ∧
        (server.handle levels freshId r s).1 = .ok (.ofError status text (r.idOr freshId)) := by
  cases adapted : r.adapt (r.idOr freshId) server.maxBody with
  | error e =>
    rw [fate?_rejected adapted]
    rw [Incoming.idOr] at adapted ⊢
    unfold handle
    dsimp only
    rw [adapted]
    refine .inr (.inr ⟨_, e.status, e.message, rfl, ?_, rfl⟩)
    cases e <;> rfl
  | ok spec =>
    rw [fate?_accepted adapted, servicing]
    rw [Incoming.idOr] at adapted ⊢
    unfold handle
    dsimp only
    rw [adapted]
    dsimp only
    rw [Run.modify_bind_apply]
    rcases ran : Pipeline.service levels server.pipeline (s.openRequest spec) with
      ⟨(message | _) | (path | failure) | done, t⟩
    · rw [Run.bind_of_ok (Run.caught_of_panic ran)]
      exact .inr (.inr ⟨.brokenOff message, 500, _, rfl, rfl, rfl⟩)
    · rw [Run.bind_of_error (Run.caught_of_exhausted ran)]
      exact .inl ⟨rfl, rfl⟩
    · rw [Run.bind_of_ok (Run.caught_of_ok ran)]
      exact .inr (.inr ⟨.unmapped, 404, _, rfl, rfl, rfl⟩)
    · rw [Run.bind_of_ok (Run.caught_of_ok ran)]
      exact .inr (.inr ⟨.failed failure, 500, _, rfl, rfl, rfl⟩)
    · rw [Run.bind_of_ok (Run.caught_of_ok ran)]
      exact .inr (.inl ⟨spec, rfl, rfl, by rw [servicing, ran]; rfl⟩)

theorem servicing_unmapped (levels : Nat) (server : Server) (s : Container) (spec : RequestSpec) :
    Fate.ofService? (server.servicing levels s spec).1 = some .unmapped ↔ server.Lacks s spec.uri := by
  rw [servicing, Pipeline.service]
  unfold Lacks
  cases found : (s.openRequest spec).pipelines.find? server.pipeline with
  | none =>
    rw [serviceWith_none _ found]
    refine iff_of_false (by rintro ⟨⟩) ?_
    rintro ⟨x, there, -⟩
    rw [show s.pipelines = (s.openRequest spec).pipelines from rfl, found] at there
    cases there
  | some x =>
    rw [serviceWith_some _ found, show s.pipelines = (s.openRequest spec).pipelines from rfl, found]
    rcases serviceOn_cases (nestedCalls levels) server.pipeline x.registry
        (s.openRequest spec).request.path (x.registry.hold ((s.openRequest spec).attach server.pipeline))
      with ⟨unmapped, ran⟩ | ⟨w, mapped, ended, -⟩
    · rw [ran]
      exact iff_of_true rfl ⟨x, rfl, unmapped⟩
    · rw [ended]
      refine iff_of_false ?_ ?_
      · rcases (Pipeline.traverse _ _ _ _ _ _).1 with (_ | _) | _ | _ <;> rintro ⟨⟩
      · rintro ⟨_, ⟨⟩, unmapped⟩
        cases mapped.symm.trans unmapped

theorem fate?_unmapped {spec : RequestSpec}
    (accepted : r.adapt (r.idOr freshId) server.maxBody = .ok spec) :
    server.fate? levels freshId r s = some .unmapped ↔ server.Lacks s r.target := by
  have same : spec.uri = r.target := Incoming.adapt_uri accepted
  rw [fate?_accepted accepted, servicing_unmapped, same]

/-- Requests that fail in the same way up to what components did are answered in the same way. -/
theorem refusal?_same {levels' : Nat} {server' : Server} {s' : Container} {fate fate' : Fate}
    (limit : server.maxBody = server'.maxBody)
    (lacks : server.Lacks s r.target ↔ server'.Lacks s' r.target)
    (is : server.fate? levels freshId r s = some fate)
    (is' : server'.fate? levels' freshId r s' = some fate')
    (failed : fate ≠ .serviced) (failed' : fate' ≠ .serviced) : fate.refusal? = fate'.refusal? := by
  cases adapted : r.adapt (r.idOr freshId) server.maxBody with
  | error e =>
    rw [fate?_rejected adapted] at is
    rw [fate?_rejected (limit ▸ adapted)] at is'
    rw [← Option.some.inj is, ← Option.some.inj is']
  | ok spec =>
    have unmapped : server.fate? levels freshId r s = some .unmapped ↔ server.Lacks s r.target :=
      fate?_unmapped adapted
    have unmapped' : server'.fate? levels' freshId r s' = some .unmapped ↔ server'.Lacks s' r.target :=
      fate?_unmapped (limit ▸ adapted)
    have same : fate = .unmapped ↔ fate' = .unmapped := by
      rw [is, Option.some_inj] at unmapped
      rw [is', Option.some_inj] at unmapped'
      exact unmapped.trans (lacks.trans unmapped'.symm)
    rw [fate?_accepted adapted] at is
    rw [fate?_accepted (limit ▸ adapted)] at is'
    rw [Fate.refusal?_ofService is failed, Fate.refusal?_ofService is' failed', if_congr same rfl rfl]

theorem handle_unserviced {fate : Fate} (is : server.fate? levels freshId r s = some fate)
    (failed : fate ≠ .serviced) :
    ∃ refusal, fate.refusal? = some refusal ∧
      (server.handle levels freshId r s).1 =
        .ok (.ofError refusal.1 refusal.2 (r.idOr freshId)) := by
  rcases server.handle_cases levels freshId r s with
    ⟨is', -⟩ | ⟨spec, -, is', -⟩ | ⟨fate', status, text, is', refuses, ran⟩ <;> rw [is'] at is
  · cases is
  · exact absurd (Option.some.inj is).symm failed
  · obtain rfl := Option.some.inj is
    exact ⟨_, refuses, ran⟩

/-- Every response carries one number, that of its request: the first one that came with it, if that
is a text and not empty, and else the one that was made for it. Components do not change it,
whatever headers they write. A request that was not serviced is answered with a fixed text for what
became of it: too large or broken, for a path without a servlet, or an internal error. All runs for
it that do not end well are answered alike, whatever the components of each of them do, as long as
the servers allow bodies of the same size and both have a servlet for the path or both have none. -/
theorem handle_answers {freshId : String} (uuid : IsUuid freshId) (r : Incoming) :
    ∃ id,
      (∀ value text, r.first? "x-request-id" = some value → fieldText? value = some text →
        text ≠ "" → id = text) ∧
      ((∀ value text, r.first? "x-request-id" = some value → fieldText? value = some text →
        text = "") → id = freshId) ∧
      (∀ (levels : Nat) (server : Server) (s : Container),
        (server.fate? levels freshId r s = none →
          (server.handle levels freshId r s).1 = .error .exhausted) ∧
        ∀ fate, server.fate? levels freshId r s = some fate →
          ∃ out, (server.handle levels freshId r s).1 = .ok out ∧
            out.values "x-request-id" = [id] ∧
            (∀ status text, fate.refusal? = some (status, text) → out = .refusing status text id) ∧
            (fate.refusal? = none → ∃ spec, r.adapt id server.maxBody = .ok spec ∧
              out = .written (server.servicing levels s spec).2.response id)) ∧
      ∀ (levels levels' : Nat) (server server' : Server) (s s' : Container) (fate fate' : Fate),
        server.maxBody = server'.maxBody →
        (server.Lacks s r.target ↔ server'.Lacks s' r.target) →
        server.fate? levels freshId r s = some fate →
        server'.fate? levels' freshId r s' = some fate' →
        fate ≠ .serviced → fate' ≠ .serviced →
        (server.handle levels freshId r s).1 = (server'.handle levels' freshId r s').1 := by
  have plain : isFieldText (r.idOr freshId) = true := Incoming.idOr_isFieldText uuid
  refine ⟨r.idOr freshId, ?_, ?_, ?_, ?_⟩
  · intro value text first readable filled
    rw [Incoming.idOr, Incoming.requestId?_of_first first readable filled, Option.getD_some]
  · intro none
    unfold Incoming.idOr
    cases brought : r.requestId? with
    | none => rfl
    | some id =>
      obtain ⟨filled, value, first, readable⟩ := Incoming.first_of_requestId? brought
      exact absurd (none value id first readable) filled
  · intro levels server s
    rcases server.handle_cases levels freshId r s with
      ⟨is, ran⟩ | ⟨spec, accepted, is, ran⟩ | ⟨fate, status, text, is, refuses, ran⟩ <;> rw [is, ran]
    · exact ⟨fun _ => rfl, by rintro fate ⟨⟩⟩
    · refine ⟨by rintro ⟨⟩, ?_⟩
      rintro fate ⟨⟩
      rw [Outgoing.ofResponse_eq plain]
      refine ⟨_, rfl, Outgoing.written_values _ _, ?_, fun _ => ⟨spec, accepted, rfl⟩⟩
      rintro status text ⟨⟩
    · refine ⟨by rintro ⟨⟩, ?_⟩
      rintro fate ⟨⟩
      rw [Outgoing.ofError_eq plain, refuses]
      refine ⟨_, rfl, Outgoing.refusing_values _ _ _, ?_, by rintro ⟨⟩⟩
      rintro status text ⟨⟩
      rfl
  · intro levels levels' server server' s s' fate fate' limit lacks is is' failed failed'
    obtain ⟨refusal, refuses, ran⟩ := handle_unserviced is failed
    obtain ⟨refusal', refuses', ran'⟩ := handle_unserviced is' failed'
    rw [refusal?_same limit lacks is is' failed failed', refuses', Option.some_inj] at refuses
    rw [ran, ran', refuses]

/-- A page that writes a secret and a number of its own, and then ends like this. -/
def telling (secret : String) (ending : Program) : Container :=
  .opened { servlets := [{ name := "page", className := "page", urlPatterns := ["/"] }] }
    { servlets := .ofList [("page", { make := fun _ _ => .ready (.performAll writes ending) })] } {}
where
  writes : List Action :=
    [.setHeader "X-Request-ID" secret, .addHeader "x-secret" secret, .setStatus 299]

/-- Of three pages one ends well, and its answer has the number of the request and not its own. The
others fail and break off, each with a secret, and are answered alike. -/
theorem handle_answers_telling :
    let id := "7d444840-9dc0-41d1-b245-5ffdce74fad2"
    let server : Server := { config := {}, pipeline := 3 }
    let r : Incoming := { method := "GET", target := "/" }
    let well := telling "all is well" .done
    let failing := telling "a key" (.fail (.runtime "wrong key"))
    let breaking := telling "a lock" (.panic "no lock")
    IsUuid id ∧ r.first? "x-request-id" = none ∧
      server.fate? 1 id r well = some .serviced ∧
      server.fate? 1 id r failing = some (.failed (.runtime "wrong key")) ∧
      server.fate? 1 id r breaking = some (.brokenOff "no lock") ∧
      (∃ out, (server.handle 1 id r well).1 = .ok out ∧ out.values "x-request-id" = [id] ∧
        out.values "x-secret" = ["all is well"]) ∧
      (server.handle 1 id r failing).1 = .ok (.refusing 500 "Internal Server Error" id) ∧
      (server.handle 1 id r failing).1 = (server.handle 1 id r breaking).1 := by
  intro id server r well failing breaking
  have uuid : IsUuid id := by decide +kernel
  have ends : server.fate? 1 id r well = some .serviced := by decide +kernel
  have fails : server.fate? 1 id r failing = some (.failed (.runtime "wrong key")) := by
    decide +kernel
  have breaks : server.fate? 1 id r breaking = some (.brokenOff "no lock") := by decide +kernel
  obtain ⟨own, -, made, each, alike⟩ := handle_answers uuid r
  obtain rfl := made (by rintro value text ⟨⟩)
  obtain ⟨out, ran, number, -, wrote⟩ := (each 1 server well).2 _ ends
  obtain ⟨out', ran', -, refuses, -⟩ := (each 1 server failing).2 _ fails
  have same : server.Lacks failing r.target ↔ server.Lacks breaking r.target := by
    have accepted : r.adapt (r.idOr id) server.maxBody =
        .ok { method := "GET", uri := "/", id, async := true } := rfl
    refine iff_of_false (fun lacks => ?_) fun lacks => ?_
    · cases fails.symm.trans ((fate?_unmapped accepted).2 lacks)
    · cases breaks.symm.trans ((fate?_unmapped accepted).2 lacks)
  refine ⟨uuid, rfl, ends, fails, breaks, ⟨out, ran, number, ?_⟩, ?_, ?_⟩
  · obtain ⟨spec, accepted, rfl⟩ := wrote rfl
    obtain rfl := Except.ok.inj accepted
    decide +kernel
  · rw [ran', refuses 500 "Internal Server Error" rfl]
  · exact alike 1 1 server server failing breaking _ _ rfl same fails breaks (by simp) (by simp)

end Server

end Http

end ServletFilters
