import NacosSdk.Auth.Plugin
import NacosSdk.Lib.Run

/-!
# The login task

`HttpLoginAuthPlugin` of `api/plugin/auth/auth_by_http.rs` in the task that
`init_auth_plugin` (`api/plugin/auth/mod.rs`) starts, on a clock in milliseconds.
The HTTP client gives every request up within its timeout; the answer, the list
of the servers and the random index come from outside. Proved here, for every
run:

* `stepped`: all that an event can do;
* `login_law`: whose token the client shows, how old it gets, whom the password
  is sent to and what stops the task.
-/

namespace NacosSdk.Auth
open NacosSdk.Common NacosSdk.Lib.Run

/-! ## The plugin -/

def username : String := "username"
def password : String := "password"
def accessToken : String := "accessToken"

structure HttpLoginResponse where
  accessToken : String
  /-- In seconds. -/
  tokenTtl : Nat
  deriving DecidableEq

/-- What the request comes back with; `text` is `none` where `serde_json` does
not read a response in it. -/
inductive LoginAnswer where
  | sendFailed
  | textFailed
  | text (response : Option HttpLoginResponse)
  deriving DecidableEq

structure LoginRequest where
  url : String
  username : String
  password : String
  deriving DecidableEq

/-- `login_url`; the feature `tls` selects the scheme. -/
def loginUrl (tls : Bool) (serverAddr : String) : String :=
  let scheme := if tls then "https" else "http"
  scheme ++ "://" ++ serverAddr ++ "/nacos/v1/auth/login"

/-- The delay until the next login, in milliseconds. -/
def HttpLoginResponse.delay (response : HttpLoginResponse) : Nat := response.tokenTtl / 10 * 1000

def HttpLoginResponse.identity (response : HttpLoginResponse) : LoginIdentityContext :=
  LoginIdentityContext.default.addContext Auth.accessToken response.accessToken

/-! ## The task -/

/-- `timeout` of the HTTP client. -/
def httpTimeout : Nat := 10000

/-- The sleep of the loop. -/
def authPause : Nat := 30000

/-- Where the task stands; `first` marks the login before the loop, `dead` a
panic. -/
inductive AuthAt where
  | listing (first : Bool)
  | login (first : Bool) (serverList : List String)
  | requesting (first : Bool) (due : Nat)
  | sleeping (due : Nat)
  | dead
  deriving DecidableEq

/-- The plugin and the task. No step reads the fields after `place`. -/
structure AuthTask where
  now : Nat
  loginIdentity : LoginIdentityContext
  nextLoginRefresh : Nat
  place : AuthAt
  requests : List LoginRequest
  /-- The responses that were read. -/
  responses : List HttpLoginResponse
  /-- When the last one was stored, or the plugin was made. -/
  storedAt : Nat
  /-- The requests since then that failed. -/
  failures : Nat
  /-- The time since then that the task waited for a list. -/
  waited : Nat

def AuthTask.init (now : Nat) : AuthTask where
  now
  loginIdentity := LoginIdentityContext.default
  nextLoginRefresh := now
  place := .listing true
  requests := []
  responses := []
  storedAt := now
  failures := 0
  waited := 0

inductive AuthEvent where
  /-- A millisecond passes. -/
  | tick
  | listed (serverList : List String)
  /-- `login` up to its request; `index` is the random one. -/
  | login (index : Nat)
  | answered (answer : LoginAnswer)
  | wake

/-- After `login`. -/
def AuthTask.finish (s : AuthTask) (first : Bool) : AuthTask :=
  { s with place := if first then .listing false else .sleeping (s.now + authPause) }

def AuthTask.store (s : AuthTask) (response : HttpLoginResponse) : AuthTask :=
  { s with
    loginIdentity := response.identity
    nextLoginRefresh := s.now + response.delay
    responses := s.responses ++ [response]
    storedAt := s.now
    failures := 0
    waited := 0 }

def AuthTask.fail (s : AuthTask) : AuthTask := { s with failures := s.failures + 1 }

section Task

variable (tls : Bool) (authContext : AuthContext)

/-- `login` after the test of the time; an index is drawn only from a list that
is not empty. -/
def AuthTask.send (s : AuthTask) (first : Bool) (serverList : List String) (index : Nat) :
    Option AuthTask :=
  match authContext.params.get? username, authContext.params.get? password with
  | some username, some password =>
    if serverList.isEmpty then some { s with place := .dead }
    else
      (serverList[index]?).map fun serverAddr =>
        { s with
          place := .requesting first (s.now + httpTimeout)
          requests := s.requests ++ [⟨loginUrl tls serverAddr, username, password⟩] }
  | _, _ => some { s with place := .dead }

def AuthTask.step (s : AuthTask) : AuthEvent → Option AuthTask
  | .tick =>
    match s.place with
    | .listing _ => some { s with now := s.now + 1, waited := s.waited + 1 }
    | .login _ _ => none
    | .requesting _ due | .sleeping due =>
      if s.now < due then some { s with now := s.now + 1 } else none
    | .dead => some { s with now := s.now + 1 }
  | .listed serverList =>
    match s.place with
    | .listing first => some { s with place := .login first serverList }
    | _ => none
  | .login index =>
    match s.place with
    | .login first serverList =>
      if s.now ≤ s.nextLoginRefresh then some (s.finish first)
      else s.send tls authContext first serverList index
    | _ => none
  | .answered answer =>
    match s.place, answer with
    | .requesting first _, .sendFailed => some (s.fail.finish first)
    | .requesting _ _, .textFailed => some { s with place := .dead }
    | .requesting first _, .text none => some (s.fail.finish first)
    | .requesting first _, .text (some response) => some ((s.store response).finish first)
    | _, _ => none
  | .wake =>
    match s.place with
    | .sleeping due => if s.now = due then some { s with place := .listing false } else none
    | _ => none

variable {tls authContext}

/-! ## What an event does -/

/-- A step, by its event. -/
inductive AuthStepped (tls : Bool) (authContext : AuthContext) (s : AuthTask) :
    AuthEvent → AuthTask → Prop
  | waited {first : Bool} : s.place = .listing first →
      AuthStepped tls authContext s .tick { s with now := s.now + 1, waited := s.waited + 1 }
  | pending {first : Bool} {due : Nat} : s.place = .requesting first due → s.now < due →
      AuthStepped tls authContext s .tick { s with now := s.now + 1 }
  | slept {due : Nat} : s.place = .sleeping due → s.now < due →
      AuthStepped tls authContext s .tick { s with now := s.now + 1 }
  | lay : s.place = .dead → AuthStepped tls authContext s .tick { s with now := s.now + 1 }
  | listed {first : Bool} (serverList : List String) : s.place = .listing first →
      AuthStepped tls authContext s (.listed serverList)
        { s with place := .login first serverList }
  | early {first : Bool} {serverList : List String} (index : Nat) :
      s.place = .login first serverList → s.now ≤ s.nextLoginRefresh →
      AuthStepped tls authContext s (.login index) (s.finish first)
  | bare {first : Bool} {serverList : List String} (index : Nat) :
      s.place = .login first serverList → s.nextLoginRefresh < s.now →
      authContext.params.get? username = none ∨ authContext.params.get? password = none ∨
        serverList = [] →
      AuthStepped tls authContext s (.login index) { s with place := .dead }
  | sent {first : Bool} {serverList : List String} {index : Nat}
      {serverAddr name secret : String} :
      s.place = .login first serverList → s.nextLoginRefresh < s.now →
      serverList[index]? = some serverAddr →
      authContext.params.get? username = some name →
      authContext.params.get? password = some secret →
      AuthStepped tls authContext s (.login index) { s with
        place := .requesting first (s.now + httpTimeout)
        requests := s.requests ++ [⟨loginUrl tls serverAddr, name, secret⟩] }
  | failed {first : Bool} {due : Nat} {answer : LoginAnswer} : s.place = .requesting first due →
      answer ≠ .textFailed →
      AuthStepped tls authContext s (.answered answer) (s.fail.finish first)
  | broke {first : Bool} {due : Nat} : s.place = .requesting first due →
      AuthStepped tls authContext s (.answered .textFailed) { s with place := .dead }
  | answered {first : Bool} {due : Nat} (response : HttpLoginResponse) :
      s.place = .requesting first due →
      AuthStepped tls authContext s (.answered (.text (some response)))
        ((s.store response).finish first)
  | woke : s.place = .sleeping s.now →
      AuthStepped tls authContext s .wake { s with place := .listing false }

variable {s s' : AuthTask} {e : AuthEvent}

theorem send_stepped {first : Bool} {serverList : List String} {index : Nat}
    (hp : s.place = .login first serverList) (hlate : s.nextLoginRefresh < s.now)
    (h : s.send tls authContext first serverList index = some s') :
    AuthStepped tls authContext s (.login index) s' := by
  unfold AuthTask.send at h
  cases hname : authContext.params.get? username with
  | none =>
    simp only [hname, Option.some.injEq] at h
    subst h
    exact .bare index hp hlate (Or.inl hname)
  | some name =>
    cases hsecret : authContext.params.get? password with
    | none =>
      simp only [hname, hsecret, Option.some.injEq] at h
      subst h
      exact .bare index hp hlate (Or.inr (Or.inl hsecret))
    | some secret =>
      simp only [hname, hsecret] at h
      split at h
      · next hempty =>
        cases h
        exact .bare index hp hlate (Or.inr (Or.inr (List.isEmpty_iff.mp hempty)))
      · obtain ⟨serverAddr, haddr, rfl⟩ := Option.map_eq_some_iff.mp h
        exact .sent hp hlate haddr hname hsecret

theorem stepped (h : s.step tls authContext e = some s') : AuthStepped tls authContext s e s' := by
  cases e with
  | tick =>
    simp only [AuthTask.step] at h
    split at h
    · next first hp =>
      cases h
      exact .waited hp
    · cases h
    · next first due hp =>
      split at h
      · next hdue =>
        cases h
        exact .pending hp hdue
      · cases h
    · next due hp =>
      split at h
      · next hdue =>
        cases h
        exact .slept hp hdue
      · cases h
    · next hp =>
      cases h
      exact .lay hp
  | listed serverList =>
    simp only [AuthTask.step] at h
    split at h
    · next first hp =>
      cases h
      exact .listed serverList hp
    · cases h
  | login index =>
    simp only [AuthTask.step] at h
    split at h
    · next first serverList hp =>
      split at h
      · next hearly =>
        cases h
        exact .early index hp hearly
      · next hearly => exact send_stepped hp (Nat.lt_of_not_le hearly) h
    · cases h
  | answered answer =>
    simp only [AuthTask.step] at h
    split at h
    · next first due hp =>
      cases h
      exact .failed hp (by simp)
    · next first due hp =>
      cases h
      exact .broke hp
    · next first due hp =>
      cases h
      exact .failed hp (by simp)
    · next first due response hp =>
      cases h
      exact .answered response hp
    · cases h
  | wake =>
    simp only [AuthTask.step] at h
    split at h
    · next due hp =>
      split at h
      · next hdue =>
        cases h
        exact .woke (hdue ▸ hp)
      · cases h
    · cases h

/-! ## The age of the token -/

/-- The time of the next login, with that lost to failures and to waiting. -/
def AuthTask.limit (s : AuthTask) : Nat :=
  s.nextLoginRefresh + s.failures * (authPause + httpTimeout) + s.waited

/-- The task is no later than its pause and, in a request, the timeout. -/
def AuthTask.OnTime (s : AuthTask) : Prop :=
  match s.place with
  | .listing _ | .login _ _ => s.now ≤ s.limit + authPause
  | .requesting _ due => s.now ≤ due ∧ due ≤ s.limit + authPause + httpTimeout
  | .sleeping due => s.now ≤ due ∧ due ≤ s.limit + authPause
  | .dead => True

/-- `login` returns no later than the task would sleep for the next time. -/
theorem finish_onTime {s : AuthTask} (h : s.now ≤ s.limit) (first : Bool) :
    (s.finish first).OnTime := by
  unfold AuthTask.limit at h
  cases first with
  | true =>
    simp only [AuthTask.OnTime, AuthTask.finish, AuthTask.limit, if_true]
    omega
  | false =>
    simp only [AuthTask.OnTime, AuthTask.finish, AuthTask.limit, Bool.false_eq_true, if_false]
    omega

theorem step_onTime (hstep : s.step tls authContext e = some s') (h : s.OnTime) : s'.OnTime := by
  cases stepped hstep with
  | waited hp =>
    simp only [AuthTask.OnTime, AuthTask.limit, hp] at h ⊢
    omega
  | pending hp hdue | slept hp hdue =>
    simp only [AuthTask.OnTime, AuthTask.limit, hp] at h ⊢
    omega
  | lay hp => simp only [AuthTask.OnTime, hp]
  | listed serverList hp =>
    simp only [AuthTask.OnTime, AuthTask.limit, hp] at h ⊢
    omega
  | early index hp hearly =>
    apply finish_onTime
    unfold AuthTask.limit
    omega
  | bare index hp => trivial
  | sent hp =>
    simp only [AuthTask.OnTime, AuthTask.limit, hp] at h ⊢
    omega
  | failed hp =>
    apply finish_onTime
    simp only [AuthTask.OnTime, AuthTask.limit, AuthTask.fail, hp] at h ⊢
    rw [Nat.add_mul]
    omega
  | broke hp => trivial
  | answered response hp =>
    apply finish_onTime
    simp only [AuthTask.limit, AuthTask.store]
    omega
  | woke hp =>
    simp only [AuthTask.OnTime, AuthTask.limit, hp] at h ⊢
    omega

theorem onTime_now (h : s.OnTime) (hlives : s.place ≠ .dead) :
    s.now ≤ s.nextLoginRefresh + (s.failures + 1) * (authPause + httpTimeout) + s.waited := by
  rw [Nat.add_mul]
  cases hp : s.place with
  | listing first | login first serverList | requesting first due | sleeping due =>
    simp only [AuthTask.OnTime, AuthTask.limit, hp] at h
    omega
  | dead => exact absurd hp hlives

/-! ## The token and the requests -/

/-- The identity that the last of the responses gives. -/
def identityOf (responses : List HttpLoginResponse) : LoginIdentityContext :=
  match responses.getLast? with
  | none => LoginIdentityContext.default
  | some response => response.identity

def delayOf (responses : List HttpLoginResponse) : Nat :=
  match responses.getLast? with
  | none => 0
  | some response => response.delay

/-- The plugin has the last response. -/
structure AuthTask.Kept (s : AuthTask) : Prop where
  identity : s.loginIdentity = identityOf s.responses
  refresh : s.nextLoginRefresh = s.storedAt + delayOf s.responses

theorem store_kept (s : AuthTask) (response : HttpLoginResponse) : (s.store response).Kept where
  identity := by simp [AuthTask.store, identityOf]
  refresh := by simp [AuthTask.store, delayOf]

theorem step_kept (hstep : s.step tls authContext e = some s') (h : s.Kept) : s'.Kept := by
  cases stepped hstep with
  | waited | pending | slept | lay | listed | early | bare | sent | failed | broke | woke =>
    exact ⟨h.identity, h.refresh⟩
  | answered response hp =>
    have hstored := store_kept s response
    exact ⟨hstored.identity, hstored.refresh⟩

/-! ## The list of each login -/

section History

variable (tls authContext) (start : Nat)

/-- After the requests `sent`, the run `es` took a list, and the login with that
list drew the server of `request` from it, with the user and the password. -/
def SentAfter (es : List AuthEvent) (sent : List LoginRequest) (request : LoginRequest) : Prop :=
  ∃ before serverList index after u serverAddr,
    es = before ++ [.listed serverList, .login index] ++ after ∧
    Reaches (AuthTask.step tls authContext) anyStep (AuthTask.init start) before u ∧
    u.requests = sent ∧ u.nextLoginRefresh < u.now ∧ serverList[index]? = some serverAddr ∧
    request.url = loginUrl tls serverAddr ∧
    authContext.params.get? username = some request.username ∧
    authContext.params.get? password = some request.password

/-- What the task dies of: a login with no user, no password or no server, or an
answer without a text. -/
def AuthTask.DiesOf (u : AuthTask) : List AuthEvent → Prop
  | [.listed serverList, .login _] =>
    (∃ first, u.place = .listing first) ∧ u.nextLoginRefresh < u.now ∧
      (authContext.params.get? username = none ∨ authContext.params.get? password = none ∨
        serverList = [])
  | [.answered .textFailed] => ∃ first due, u.place = .requesting first due
  | _ => False

/-- The run `es` came to that. -/
def Died (es : List AuthEvent) : Prop :=
  ∃ before cause after u, es = before ++ cause ++ after ∧
    Reaches (AuthTask.step tls authContext) anyStep (AuthTask.init start) before u ∧
    u.DiesOf authContext cause

/-- The list at hand is the last event, each request has its login, and a dead
task what it died of. -/
structure AuthTask.Traced (es : List AuthEvent) (s : AuthTask) : Prop where
  current : ∀ first serverList, s.place = .login first serverList → ∃ before u,
    es = before ++ [.listed serverList] ∧
    Reaches (AuthTask.step tls authContext) anyStep (AuthTask.init start) before u ∧
    u.place = .listing first ∧ s = { u with place := .login first serverList }
  requests : ∀ sent request later, s.requests = sent ++ request :: later →
    SentAfter tls authContext start es sent request
  dead : s.place = .dead → Died tls authContext start es

variable {tls authContext start} {es : List AuthEvent}

theorem SentAfter.extend {sent : List LoginRequest} {request : LoginRequest}
    (h : SentAfter tls authContext start es sent request) (e : AuthEvent) :
    SentAfter tls authContext start (es ++ [e]) sent request := by
  obtain ⟨before, serverList, index, after, u, serverAddr, rfl, hrest⟩ := h
  exact ⟨before, serverList, index, after ++ [e], u, serverAddr, List.append_assoc _ _ _, hrest⟩

theorem Died.extend (h : Died tls authContext start es) (e : AuthEvent) :
    Died tls authContext start (es ++ [e]) := by
  obtain ⟨before, cause, after, u, rfl, hrest⟩ := h
  exact ⟨before, cause, after ++ [e], u, List.append_assoc _ _ _, hrest⟩

/-- A step that sends nothing and takes no list. -/
theorem AuthTask.Traced.extend (h : s.Traced tls authContext start es)
    (hrequests : s'.requests = s.requests)
    (hlogin : ∀ first serverList, s'.place ≠ .login first serverList)
    (hdead : s'.place = .dead → Died tls authContext start (es ++ [e])) :
    s'.Traced tls authContext start (es ++ [e]) where
  current first serverList hp := absurd hp (hlogin first serverList)
  requests sent request later heq :=
    (h.requests sent request later (hrequests ▸ heq)).extend e
  dead := hdead

theorem finish_place (s : AuthTask) (first : Bool) :
    (∀ first' serverList, (s.finish first).place ≠ .login first' serverList) ∧
      (s.finish first).place ≠ .dead := by
  unfold AuthTask.finish
  cases first <;> exact ⟨by simp, by simp⟩

/-- The last of the requests is the new one, or it is an old one. -/
theorem snoc_split {requests sent later : List LoginRequest} {new request : LoginRequest}
    (h : requests ++ [new] = sent ++ request :: later) :
    (sent = requests ∧ request = new) ∨ ∃ later', requests = sent ++ request :: later' := by
  rcases List.eq_nil_or_concat later with rfl | ⟨later', last, rfl⟩
  · obtain ⟨hsent, hnew⟩ := List.append_inj' h rfl
    exact Or.inl ⟨hsent.symm, (List.singleton_inj.mp hnew).symm⟩
  · have hlast : requests ++ [new] = (sent ++ request :: later') ++ [last] := by simpa using h
    exact Or.inr ⟨later', (List.append_inj' hlast rfl).1⟩

theorem step_traced (hpast : Reaches (AuthTask.step tls authContext) anyStep
    (AuthTask.init start) es s) (hstep : s.step tls authContext e = some s')
    (h : s.Traced tls authContext start es) : s'.Traced tls authContext start (es ++ [e]) := by
  cases stepped hstep with
  | waited hp | pending hp | slept hp =>
    refine h.extend rfl ?_ ?_ <;> simp [hp]
  | lay hp => exact h.extend rfl (by simp [hp]) fun _ => (h.dead hp).extend _
  | listed serverList hp =>
    refine ⟨?_, fun sent request later heq => (h.requests sent request later heq).extend _, ?_⟩
    · intro first serverList' hlogin
      cases hlogin
      exact ⟨es, s, rfl, hpast, hp, rfl⟩
    · intro hdead
      cases hdead
  | early | failed | answered =>
    exact h.extend rfl (finish_place _ _).1 fun hdead => absurd hdead (finish_place _ _).2
  | bare index hp hlate hbare =>
    obtain ⟨before, u, rfl, hbefore, hlisting, hs⟩ := h.current _ _ hp
    refine h.extend rfl (by simp) fun _ => ?_
    refine ⟨before, [.listed _, .login index], [], u, by simp, hbefore, ⟨_, hlisting⟩, ?_, hbare⟩
    rwa [hs] at hlate
  | @sent first serverList index serverAddr name secret hp hlate haddr hname hsecret =>
    refine ⟨by simp, ?_, by simp⟩
    intro sent request later heq
    rcases snoc_split heq with ⟨rfl, rfl⟩ | ⟨later', hold⟩
    · obtain ⟨before, u, rfl, hbefore, _, hs⟩ := h.current _ _ hp
      refine ⟨before, serverList, index, [], u, serverAddr, by simp, hbefore, by rw [hs], ?_,
        haddr, rfl, hname, hsecret⟩
      rwa [hs] at hlate
    · exact (h.requests sent request later' hold).extend _
  | @broke first due hp =>
    refine h.extend rfl (by simp) fun _ => ?_
    exact ⟨es, [.answered .textFailed], [], s, by simp, hpast, first, due, hp⟩
  | woke hp => exact h.extend rfl (by simp) (by simp)

theorem diesOf_dead {u t : AuthTask} {cause : List AuthEvent} (hdies : u.DiesOf authContext cause)
    (h : Reaches (AuthTask.step tls authContext) anyStep u cause t) : t.place = .dead := by
  unfold AuthTask.DiesOf at hdies
  split at hdies
  · obtain ⟨_, hlate, hbare⟩ := hdies
    obtain - | ⟨-, hlisted, - | ⟨-, hlogin, ⟨⟩⟩⟩ := h
    cases stepped hlisted
    cases stepped hlogin with
    | early _ hp hearly => exact absurd hlate (Nat.not_lt_of_le hearly)
    | bare => rfl
    | sent hp _ haddr hname hsecret =>
      cases hp
      rcases hbare with hnone | hnone | rfl
      · rw [hname] at hnone
        cases hnone
      · rw [hsecret] at hnone
        cases hnone
      · cases haddr
  · obtain - | ⟨-, hanswered, ⟨⟩⟩ := h
    cases stepped hanswered with
    | failed _ hanswer => exact absurd rfl hanswer
    | broke => rfl
  · exact hdies.elim

theorem dead_kept (hstep : s.step tls authContext e = some s') (h : s.place = .dead) :
    s'.place = .dead := by
  cases stepped hstep with
  | waited hp | pending hp | slept hp | listed _ hp | early _ hp | sent hp | failed hp
  | answered _ hp | woke hp =>
    rw [h] at hp
    cases hp
  | lay => exact h
  | bare | broke => rfl

/-- Nothing brings the task back. -/
theorem died_dead {t : AuthTask} (h : Reaches (AuthTask.step tls authContext) anyStep
    (AuthTask.init start) es t) (hdied : Died tls authContext start es) : t.place = .dead := by
  obtain ⟨before, cause, after, u, rfl, hbefore, hdies⟩ := hdied
  obtain ⟨v, hv, hafter⟩ := h.split
  obtain ⟨u', hu', hcause⟩ := hv.split
  obtain rfl := hbefore.unique hu'
  exact hafter.invariant (fun _ _ _ _ hstep => dead_kept hstep) (diesOf_dead hdies hcause)

end History

/-! ## Whole runs -/

theorem init_onTime (now : Nat) : (AuthTask.init now).OnTime := by
  simp only [AuthTask.OnTime, AuthTask.limit, AuthTask.init]
  omega

theorem init_kept (now : Nat) : (AuthTask.init now).Kept where
  identity := rfl
  refresh := rfl

theorem init_traced (start : Nat) : (AuthTask.init start).Traced tls authContext start [] where
  current := by simp [AuthTask.init]
  requests := by simp [AuthTask.init]
  dead := by simp [AuthTask.init]

/-- **Login.** The client shows the token of the last response; while the task
lives, it is no older than a tenth of its lifetime, the pause and the timeout,
and the same again for each request that failed since, not counting the time the
task waited for a list. Each request goes to a server of the list of its own
login, and the task is dead exactly when a login that was due had no user, no
password or no server in its list, or an answer had no text. -/
theorem login_law {start : Nat} {es : List AuthEvent} {t : AuthTask}
    (h : Reaches (AuthTask.step tls authContext) anyStep (AuthTask.init start) es t) :
    t.loginIdentity = identityOf t.responses ∧
    (t.place ≠ .dead → t.now ≤ t.storedAt + delayOf t.responses +
      (t.failures + 1) * (authPause + httpTimeout) + t.waited) ∧
    (∀ sent request later, t.requests = sent ++ request :: later →
      SentAfter tls authContext start es sent request) ∧
    (t.place = .dead ↔ Died tls authContext start es) := by
  have honTime := h.invariant (fun _ _ _ _ hstep => step_onTime hstep) (init_onTime start)
  have hkept := h.invariant (fun _ _ _ _ hstep => step_kept hstep) (init_kept start)
  have htraced := h.history (init_traced start)
    fun _ _ _ _ hpast _ hstep hu => step_traced hpast hstep hu
  refine ⟨hkept.identity, ?_, htraced.requests, htraced.dead, died_dead h⟩
  intro hlives
  rw [← hkept.refresh]
  exact onTime_now honTime hlives

end Task

def nacosContext : AuthContext :=
  (AuthContext.default.addParam username "nacos").addParam password "nacos"

/-- The first login fails; the next one gets a token for 20 s. -/
def firstLogins : List AuthEvent :=
  [.tick, .listed ["10.0.0.1:8848"], .login 0, .answered .sendFailed,
    .listed ["10.0.0.1:8848", "10.0.0.2:8848"], .login 1, .tick,
    .answered (.text (some ⟨"t1", 20⟩))]

/-- After the pause the token is 30 s old, and the task gets another. -/
def nextLogin : List AuthEvent :=
  [.wake, .listed ["10.0.0.3:8848"], .login 0, .tick, .answered (.text (some ⟨"t2", 18000⟩))]

def loginTo (serverAddr : String) : LoginRequest :=
  ⟨loginUrl false serverAddr, "nacos", "nacos"⟩

/-- The task in its pause, `slept` milliseconds after the answer. -/
def loggedIn (slept : Nat) : AuthTask where
  now := 2 + slept
  loginIdentity := HttpLoginResponse.identity ⟨"t1", 20⟩
  nextLoginRefresh := 2 + HttpLoginResponse.delay ⟨"t1", 20⟩
  place := .sleeping (2 + authPause)
  requests := [loginTo "10.0.0.1:8848", loginTo "10.0.0.2:8848"]
  responses := [⟨"t1", 20⟩]
  storedAt := 2
  failures := 0
  waited := 0

def authAfter (s : AuthTask) (es : List AuthEvent) : AuthTask :=
  (run (AuthTask.step false nacosContext) s es).getD s

/-- The second token is shown, and each request went to the list of its login. -/
theorem login_law_refreshed :
    ∃ t, Reaches (AuthTask.step false nacosContext) anyStep (AuthTask.init 0)
        (firstLogins ++ List.replicate authPause .tick ++ nextLogin) t ∧
      t.loginIdentity = LoginIdentityContext.default.addContext "accessToken" "t2" ∧
      t.now ≤ t.storedAt + delayOf t.responses + (t.failures + 1) * (authPause + httpTimeout) +
        t.waited ∧
      t.requests = [loginTo "10.0.0.1:8848", loginTo "10.0.0.2:8848", loginTo "10.0.0.3:8848"] ∧
      SentAfter false nacosContext 0 (firstLogins ++ List.replicate authPause .tick ++ nextLogin)
        [loginTo "10.0.0.1:8848"] (loginTo "10.0.0.2:8848") ∧
      ¬ Died false nacosContext 0
        (firstLogins ++ List.replicate authPause .tick ++ nextLogin) := by
  have hfirst : Reaches (AuthTask.step false nacosContext) anyStep (AuthTask.init 0) firstLogins
      (authAfter (AuthTask.init 0) firstLogins) := run_getD_reaches rfl _
  have hpaused : authAfter (AuthTask.init 0) firstLogins = loggedIn 0 := rfl
  rw [hpaused] at hfirst
  have hslept := @replicate_reaches _ _ (AuthTask.step false nacosContext) anyStep loggedIn .tick
    authPause (fun _ _ => trivial) fun k hk => if_pos (Nat.add_lt_add_left hk 2)
  have hnext : Reaches (AuthTask.step false nacosContext) anyStep (loggedIn authPause) nextLogin
      (authAfter (loggedIn authPause) nextLogin) := run_getD_reaches rfl _
  have hrun := (hfirst.append hslept).append hnext
  obtain ⟨hidentity, hage, hsent, hdied⟩ := login_law hrun
  exact ⟨_, hrun, hidentity, hage (by decide), rfl, hsent _ _ _ rfl, hdied.not.mp (by decide)⟩

end NacosSdk.Auth
