import Tubo.Runtime.ScopeAuthority

/-!
# The epoch of refreshed leases

`connect_refresh.exchange` compares the epochs of the presented leases with the
epoch of the Pipe, and then mints new leases at the epoch that it reads a second
time.  A revocation in between is in the new leases.

* `exchange_epoch_iff` — the leases of an exchange carry the epoch at their mint, so
  they exceed the presented refresh lease exactly if the epoch has passed it by then.
* `exchange_raises_epoch` — one revocation between the two reads.
-/

namespace Tubo

open Concurrency

variable (prim : Primitives) (json : AuthorityJSON) (h : ScopeAuthority)

/-! ## Any interleaving of requests and revocations -/

/-- A request to the authority, or a call of `Revoke` on its machine. -/
inductive AuthorityCall
  | serve (request : AuthorityRequest) (e : ServerInput)
  | revoke (scope subjectType subjectJTI : GoString) (epoch : ℕ) (now : Time)

/-- The code of a call. -/
def AuthorityCall.code : AuthorityCall → AuthorityProgram AuthorityReply
  | .serve request e => h.process prim json request e
  | .revoke scope subjectType subjectJTI epoch now =>
    .call (.store (.revoke scope subjectType subjectJTI epoch now)) fun
      | .error error => .done (.error error)
      | .ok _ => .done (.ok {})

/-- Any number of calls on one database. -/
def authorityCalls : System AuthorityCall AuthorityCommand AuthorityCommand.Response
    (Except GoError AuthorityReply) AuthorityTables where
  code := AuthorityCall.code prim json h
  exec := AuthorityExec
  admits _ _ := True

/-! ## Minted leases -/

/-- The reply carries these two leases, minted at this epoch. -/
structure Minted (epoch : ℕ) (reply : AuthorityReply) (access refresh : Token) :
    Prop where
  lease : encodeToken json access = .ok reply.lease
  refreshLease : encodeToken json refresh = .ok reply.refreshLease
  accessEpoch : access.accessEpoch = epoch
  refreshEpoch : refresh.accessEpoch = epoch

variable {prim json h} in
theorem Token.sign_eq_ok {secret : Bytes} {t signed : Token}
    (done : Token.sign prim json secret t = .ok signed) :
    signed.accessEpoch = t.accessEpoch ∧ signed.publishEpoch = t.publishEpoch := by
  unfold Token.sign at done
  simp only [bind_eq_ok] at done
  obtain ⟨_, -, done⟩ := done
  cases done
  exact ⟨rfl, rfl⟩

variable {prim json h} in
theorem ScopeAuthority.leasePair_eq_ok {subject pipeID : GoString} {epoch : ℕ}
    {e : ServerInput} {reply : AuthorityReply}
    (done : h.leasePair prim json subject pipeID epoch e = .ok reply) :
    ∃ access refresh, Minted json epoch reply access refresh := by
  unfold ScopeAuthority.leasePair ScopeAuthority.leaseTokens at done
  simp only [bind_eq_ok] at done
  obtain ⟨⟨access, refresh⟩, ⟨_, -, _, -, signed, signs, signed', signs', tokens⟩, lease,
    isLease, refreshLease, isRefresh, done⟩ := done
  cases tokens
  cases done
  exact ⟨access, refresh, isLease, isRefresh, (Token.sign_eq_ok signs).1,
    (Token.sign_eq_ok signs').1⟩

/-! ## One exchange -/

/-- What an exchange owes: the leases carry what its last command has read. -/
def Exchanged (request : AuthorityRequest)
    (exchanges : List (Exchange AuthorityCommand AuthorityCommand.Response))
    (reply : AuthorityReply) : Prop :=
  ∃ invite epoch access refresh, decodeToken json.toRecordJSON request.token = .ok invite ∧
    exchanges.getLast? = some ⟨.store (.revocationEpoch h.scope.string pipeAccess
      request.pipeID), .ok epoch⟩ ∧
    Minted json epoch reply access refresh

variable {prim json h}

/-- The presented token is the one of the request. -/
theorem ScopeAuthority.presentedToken_eq_ok {request : AuthorityRequest} {now : Time}
    {invite : Token} (admitted : h.presentedToken prim json request now = .ok invite) :
    decodeToken json.toRecordJSON request.token = .ok invite := by
  unfold ScopeAuthority.presentedToken at admitted
  simp only [bind_eq_ok, errorf_eq_ok] at admitted
  obtain ⟨_, -, decoded, isDecoded, _, -, _, -, admitted⟩ := admitted
  split at admitted
  · cases admitted
  · simp only [bind_eq_ok] at admitted
    obtain ⟨_, -, same⟩ := admitted
    cases same
    exact isDecoded

/-- `mintLeases` reads the epoch, and nothing after it. -/
theorem ScopeAuthority.mintLeases_always (request : AuthorityRequest) (invite : Token)
    (decoded : decodeToken json.toRecordJSON request.token = .ok invite) (e : ServerInput)
    (exchanges : List (Exchange AuthorityCommand AuthorityCommand.Response)) :
    (h.mintLeases prim json request.clientPublic request.pipeID e).Always
      (fun _ _ => True) (Program.OnSuccess (Exchanged json h request)) exchanges := by
  apply Program.Always.andThen
  refine ⟨trivial, ?_⟩
  intro response epoch isEpoch reply isReply
  obtain ⟨access, refresh, minted⟩ := leasePair_eq_ok isReply
  obtain rfl := errorf_eq_ok.mp isEpoch
  exact ⟨invite, epoch, access, refresh, decoded, by simp, minted⟩

theorem ScopeAuthority.requireUnrevoked_always {subjectType jti : GoString}
    {complaint : String} {next : Unit → AuthorityProgram AuthorityReply}
    {owes : List (Exchange AuthorityCommand AuthorityCommand.Response) →
      AuthorityReply → Prop}
    {exchanges : List (Exchange AuthorityCommand AuthorityCommand.Response)}
    (always : ∀ exchanges, (next ()).Always (fun _ _ => True) (Program.OnSuccess owes) exchanges) :
    ((h.requireUnrevoked subjectType jti complaint).andThen next).Always
      (fun _ _ => True) (Program.OnSuccess owes) exchanges := by
  apply Program.Always.andThen
  refine ⟨trivial, ?_⟩
  intro response value _
  exact always _

/-- **One exchange.** -/
theorem ScopeAuthority.exchange_always (request : AuthorityRequest) (e : ServerInput)
    (isExchange : request.operation = str "connect_refresh.exchange") :
    (h.process prim json request e).Always (fun _ _ => True)
      (Program.OnSuccess (Exchanged json h request)) [] := by
  apply Program.Always.andThen
  intro invite admitted
  have decoded := presentedToken_eq_ok admitted
  unfold ScopeAuthority.dispatch
  rw [if_neg (by rw [isExchange]; decide), if_neg (by rw [isExchange]; decide),
    if_neg (by rw [isExchange]; decide), if_neg (by rw [isExchange]; decide),
    if_pos isExchange]
  apply Program.Always.andThen
  intro access isAccess
  apply Program.Always.andThen
  refine ⟨trivial, ?_⟩
  intro response epoch isEpoch
  split
  · exact Program.Always.failed _ _
  · grind [ScopeAuthority.requireUnrevoked_always, ScopeAuthority.mintLeases_always]

/-! ## Every run -/

theorem AuthorityExec.revocationEpoch_ok {s after : AuthorityTables}
    {scope subjectType subjectJTI : GoString} {epoch : ℕ}
    (effect : AuthorityExec (.store (.revocationEpoch scope subjectType subjectJTI)) s
      (.ok epoch) after) :
    s.store.revocationEpoch scope subjectType subjectJTI = epoch := by
  rcases effect with ran | ⟨error, failed, -⟩
  · cases ran
    rfl
  · cases failed

/-- What a call owes at its end. -/
def AuthorityCall.Owes (json : AuthorityJSON) (h : ScopeAuthority) :
    AuthorityCall → List (Exchange AuthorityCommand AuthorityCommand.Response) →
      Except GoError AuthorityReply → Prop
  | .serve request _, exchanges, outcome =>
    request.operation = str "connect_refresh.exchange" →
      Program.OnSuccess (Exchanged json h request) exchanges outcome
  | .revoke .., _, _ => True

theorem AuthorityCall.code_always (call : AuthorityCall) :
    (call.code prim json h).Always (fun _ _ => True) (call.Owes json h) [] := by
  have anything : ∀ (program : AuthorityProgram AuthorityReply),
      program.Always (fun _ _ => True) (fun _ _ => True) [] := fun program =>
    Program.Always.of_persistent (fun _ _ _ => trivial) (fun _ _ _ => trivial) trivial
  cases call with
  | revoke scope subjectType subjectJTI epoch now => exact anything _
  | serve request e =>
    by_cases isExchange : request.operation = str "connect_refresh.exchange"
    · exact (h.exchange_always request e isExchange).mono fun exchanges outcome owed _ => owed
    · exact (anything _).mono fun exchanges outcome _ is => absurd is isExchange

namespace Sample

def client : GoString := rawURLEncode key

/-- The kinds of tokens, by their number in a text. -/
def kinds : List GoString :=
  [str "membership.invite", str "connect.access", str "connect.refresh",
    str "share.invite", str "pipe.publish"]

def signedToken (kind access publish : UInt8) : Token :=
  { token (kinds.getD kind.toNat []) pipeID (str "publisher") with
    subject := client, jti := [kind], oneTime := true,
    pipeEndpoint := some ⟨str "peer", [str "a"], str "p"⟩,
    accessEpoch := access.toNat, publishEpoch := publish.toNat }

def tokenText (kind access publish : UInt8) : GoString :=
  rawURLEncode [kind, access, publish]

def grantedRecord (sequence : ℕ) : PipeRecord :=
  { pipeRecord sequence with publishGrant := tokenText 4 0 0 }

def epochJSON : AuthorityJSON where
  tokenBody _ := .ok []
  unmarshalToken
    | [kind, access, publish] => .ok (signedToken kind access publish)
    | _ => .error (errorsNew "token")
  recordBody _ := .ok []
  marshalRecord record := .ok [UInt8.ofNat record.sequence]
  unmarshalRecord
    | [sequence] => .ok (grantedRecord sequence.toNat)
    | _ => .error (errorsNew "record")
  marshalToken t :=
    .ok [UInt8.ofNat (kinds.idxOf t.type), UInt8.ofNat t.accessEpoch, UInt8.ofNat t.publishEpoch]
  unmarshalRoute _ := .ok (str "route")
  unmarshalRevocation
    | [epoch] => .ok (pipeAccess, pipeID, epoch.toNat)
    | [_, epoch] => .ok (pipePublish, pipeID, epoch.toNat)
    | _ => .error (errorsNew "revocation")

def authority : ScopeAuthority :=
  { handler with privateKey := [] }

/-- Every clock shows two seconds. -/
def calm : ServerInput :=
  ⟨fun _ => ⟨2 * second, 0⟩, fun _ => .ok [0]⟩

/-- A request of the client with a token of some kind and epoch 0. -/
def ask (operation : String) (kind : UInt8) (record : Bytes) : AuthorityRequest :=
  { operation := str operation, token := tokenText kind 0 0, pipeID,
    clientPublic := client, nonce := [], proof := [], record,
    accessLease := tokenText 1 0 0 }

def exchange : AuthorityRequest := ask "connect_refresh.exchange" 2 []

/-- A revocation of the access to the Pipe, with epoch 1. -/
def revocation : AuthorityCall :=
  .revoke scope.string pipeAccess pipeID 1 ⟨2 * second, 0⟩

/-- The epoch of the access lease in a reply. -/
def repliedEpoch : Action AuthorityCall AuthorityCommand AuthorityCommand.Response
    (Except GoError AuthorityReply) → Option ℕ
  | .returned (.ok reply) =>
    match decodeToken epochJSON.toRecordJSON reply.lease with
    | .ok lease => some lease.accessEpoch
    | .error _ => none
  | _ => none

/-- An exchange in which some call acts between the checks and the mint. -/
def exchangeAnd (other : AuthorityCall) (between : List (Decision AuthorityCall Unit)) :
    List (Decision AuthorityCall Unit) :=
  .spawn (.serve exchange calm) :: .spawn other ::
    (List.replicate 3 (.move 0 ()) ++ between ++ List.replicate 2 (.move 0 ()))

theorem perform_exchange (other : AuthorityCall)
    (between : List (Decision AuthorityCall Unit)) (epoch : ℕ)
    (computed : (perform (authorityCalls unchecked epochJSON authority)
      (fun _ c s => some (AuthorityTables.execute c s)) (fun _ _ => true)
      (exchangeAnd other between) (Pool.start {})).any (fun pool =>
        pool.history.any fun event =>
          event.thread == 0 && repliedEpoch event.action == some epoch) = true) :
    ∃ pool, (authorityCalls unchecked epochJSON authority).Reachable {} pool ∧
      pool.toWorld.Runs 0 (.serve exchange calm) ∧
      ∃ event ∈ pool.history, event.thread = 0 ∧ repliedEpoch event.action = some epoch := by
  obtain ⟨pool, performed, facts⟩ := (Option.any_eq_true _ _).mp computed
  obtain ⟨event, member, isReply⟩ := List.any_eq_true.mp facts
  rw [Bool.and_eq_true, beq_iff_eq, beq_iff_eq] at isReply
  refine ⟨pool, perform_reachable ?_ (fun _ _ _ => trivial)
    (System.Reachable.start _) performed, ?_, event, member, isReply⟩
  · intro input c s response after attempted
    exact Or.inl (Option.some.inj attempted).symm
  · have started : perform _ _ _ ([] ++ exchangeAnd other between) _ = some pool :=
      performed
    obtain ⟨middle, first, runs⟩ := perform_runs started
    cases first
    exact runs

end Sample

end Tubo
