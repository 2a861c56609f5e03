import Ormpp.Wire.Authentication

/-!
# What a login tells

Whatever a server sends, the login succeeds on an OK packet only, an auth switch is answered by the
plugin that it names, and the password reaches the server as a digest or under a key. The first
three follow from the rounds of the exchange. For the last one the login is run with two passwords
that OpenSSL makes the same of: the two runs differ in nothing but the password that the client
keeps to itself.
-/

namespace Ormpp

variable {Key : Type} {ssl : Openssl Key} {password : Bytes}

/-! ## Rounds -/

/-- The packets that can be written. -/
inductive Sealed (ssl : Openssl Key) (password : Bytes) : Bytes → Prop
  | response {scramble : Scramble} {plugin packet : Bytes}
    (h : buildAuthResponse ssl password scramble plugin = .ok packet) : Sealed ssl password packet
  /-- The request for a public key. -/
  | request : Sealed ssl password [2]
  | encrypted {drawn : ℕ} {scramble : Scramble} {key packet : Bytes}
    (h : rsaEncryptPassword ssl drawn password scramble key = .ok packet) :
    Sealed ssl password packet

/-- What follows an auth switch request: the response, if there is one, and nothing otherwise. -/
def SwitchAnswered (ssl : Openssl Key) (password payload : Bytes) (post : List LoginEvent)
    (result : Except Exn Bool) : Prop :=
  match switchResponse ssl password payload with
  | .ok response => post.head? = some (.wrote response)
  | .error e => post = [] ∧ result = .error e

theorem isAuthSwitchRequest_of_moreData {payload : Bytes} (h : isAuthMoreData payload = true) :
    isAuthSwitchRequest payload = false := isAuthSwitchRequest_of_head h (by decide)

theorem sealed_switchResponse {payload response : Bytes}
    (h : switchResponse ssl password payload = .ok response) : Sealed ssl password response := by
  rw [switchResponse] at h
  generalize parseAuthSwitch payload = r at h
  obtain e | request := r
  · cases h
  · exact .response h

namespace Answers

variable {payload : Bytes} {answer : List LoginEvent}

theorem sealed_of_mem (h : Answers ssl password payload answer) {packet : Bytes}
    (hmem : .wrote packet ∈ answer) : Sealed ssl password packet := by
  obtain ⟨-, hresponse⟩ | - | ⟨-, hencrypted⟩ := h
  · cases List.mem_singleton.mp hmem
    exact sealed_switchResponse hresponse
  · exact absurd hmem List.not_mem_nil
  · obtain hmem | hmem := List.mem_cons.mp hmem
    · cases hmem
      exact .request
    · cases List.mem_singleton.mp ((List.mem_cons.mp hmem).resolve_left nofun)
      exact .encrypted hencrypted

theorem read_not_mem (h : Answers ssl password payload answer) (packet : Bytes) :
    .read packet ∉ answer := by
  obtain _ | _ | _ := h
  · exact nofun
  · exact nofun
  · simp

theorem switch_answered (h : Answers ssl password payload answer)
    (hkind : isAuthSwitchRequest payload = true) (more : List LoginEvent)
    (result : Except Exn Bool) : SwitchAnswered ssl password payload (answer ++ more) result := by
  obtain ⟨-, hresponse⟩ | hmore | ⟨hmore, -⟩ := h
  · rw [SwitchAnswered, hresponse]
    rfl
  · exact absurd hkind (ne_true_of_eq_false (isAuthSwitchRequest_of_moreData hmore))
  · exact absurd hkind (ne_true_of_eq_false (isAuthSwitchRequest_of_moreData hmore))

end Answers

namespace Breaks

variable {payload : Bytes} {answer : List LoginEvent} {e : Exn}

theorem sealed_of_mem (h : Breaks ssl password payload answer e) {packet : Bytes}
    (hmem : .wrote packet ∈ answer) : Sealed ssl password packet := by
  obtain - | - | - | - | hanswer := h
  · exact absurd hmem List.not_mem_nil
  · exact absurd hmem List.not_mem_nil
  · cases List.mem_singleton.mp hmem
    exact .request
  · obtain hmem | hmem := List.mem_cons.mp hmem
    · cases hmem
      exact .request
    · exact absurd (List.mem_singleton.mp hmem) nofun
  · exact hanswer.sealed_of_mem hmem

theorem read_not_mem (h : Breaks ssl password payload answer e) (packet : Bytes) :
    .read packet ∉ answer := by
  obtain - | - | - | - | hanswer := h
  · exact nofun
  · exact nofun
  · simp
  · simp
  · exact hanswer.read_not_mem packet

theorem switch_answered (h : Breaks ssl password payload answer e)
    (hkind : isAuthSwitchRequest payload = true) :
    SwitchAnswered ssl password payload answer (.error e) := by
  obtain hnot | ⟨-, hresponse⟩ | hmore | hmore | hanswer := h
  · rw [hnot] at hkind
    exact absurd hkind nofun
  · rw [SwitchAnswered, hresponse]
    exact ⟨rfl, rfl⟩
  · exact absurd hkind (ne_true_of_eq_false (isAuthSwitchRequest_of_moreData hmore))
  · exact absurd hkind (ne_true_of_eq_false (isAuthSwitchRequest_of_moreData hmore))
  · have hanswered := hanswer.switch_answered hkind [] (.error e)
    rwa [List.append_nil] at hanswered

end Breaks

/-- A list is split at an element that its first part does not have. -/
theorem exists_of_append_eq_append_cons {α : Type} {xs ys pre post : List α} {a : α} (ha : a ∉ xs)
    (h : xs ++ ys = pre ++ a :: post) : ∃ pre', pre = xs ++ pre' ∧ ys = pre' ++ a :: post := by
  obtain ⟨pre', rfl, hys⟩ | ⟨more, rfl, hmore⟩ := List.append_eq_append_iff.mp h
  · exact ⟨pre', rfl, hys⟩
  · obtain _ | ⟨b, more⟩ := more
    · exact ⟨[], by rw [List.append_nil, List.append_nil], hmore.symm⟩
    · have hhead : a = b := (List.cons.inj hmore).1
      exact absurd (by rw [hhead]; simp) ha

namespace Rounds

variable {payload : Bytes} {more : List LoginEvent} {result : Except Exn Bool}

theorem sealed_of_mem (h : Rounds ssl password payload more result) {packet : Bytes}
    (hmem : .wrote packet ∈ more) : Sealed ssl password packet := by
  induction h with
  | done => exact absurd hmem List.not_mem_nil
  | broken _ hbreaks => exact hbreaks.sealed_of_mem hmem
  | next hanswer _ ih =>
    obtain hmem | hmem := List.mem_append.mp hmem
    · exact hanswer.sealed_of_mem hmem
    · exact ih ((List.mem_cons.mp hmem).resolve_left nofun)

/-- The last thing in a successful exchange is an OK packet. -/
theorem ends (h : Rounds ssl password payload more result) :
    (result = .ok true ∧ ∃ pre packet, .read payload :: more = pre ++ [.read packet] ∧
        isOkPacket packet = true) ∨
      ∃ e, result = .error e ∧ e ≠ .outOfFuel := by
  induction h with
  | done hok => exact Or.inl ⟨rfl, [], _, rfl, hok⟩
  | broken he _ => exact Or.inr ⟨_, rfl, he⟩
  | @next payload _ answer _ _ _ _ ih =>
    obtain ⟨hresult, pre, packet, hevents, hok⟩ | herror := ih
    · refine Or.inl ⟨hresult, .read payload :: (answer ++ pre), packet, ?_, hok⟩
      rw [hevents, List.cons_append, List.append_assoc]
    · exact Or.inr herror

theorem switch_answered (h : Rounds ssl password payload more result) {pre post : List LoginEvent}
    {packet : Bytes} (hevents : .read payload :: more = pre ++ .read packet :: post)
    (hkind : isAuthSwitchRequest packet = true) :
    SwitchAnswered ssl password packet post result := by
  induction h generalizing pre with
  | done hok =>
    obtain ⟨rfl, hcons⟩ | ⟨pre', rfl, hnil⟩ := List.cons_eq_append_iff.mp hevents
    · cases hcons
      rw [isAuthSwitchRequest_of_head hok (by decide)] at hkind
      exact absurd hkind nofun
    · exact absurd hnil.symm (by simp)
  | broken _ hbreaks =>
    obtain ⟨rfl, hcons⟩ | ⟨pre', rfl, hanswer⟩ := List.cons_eq_append_iff.mp hevents
    · cases hcons
      exact hbreaks.switch_answered hkind
    · exact absurd (by rw [hanswer]; simp) (hbreaks.read_not_mem packet)
  | next hanswer _ ih =>
    obtain ⟨rfl, hcons⟩ | ⟨pre', rfl, hrest⟩ := List.cons_eq_append_iff.mp hevents
    · cases hcons
      exact hanswer.switch_answered hkind _ _
    · obtain ⟨pre'', -, hmore⟩ :=
        exists_of_append_eq_append_cons (hanswer.read_not_mem packet) hrest
      exact ih hmore

end Rounds

/-! ## Two passwords -/

def Login.withPassword (s : Login) (password : Bytes) : Login := { s with password }

/-- The action does the same with either password. -/
abbrev Blind {α : Type} (password password' : Bytes) (x : AsyncLogin α) : Prop :=
  Effect.Commutes (fun s ↦ s.password = password) (fun s ↦ s.withPassword password') x

section Blind

open Effect

variable {password' : Bytes}

theorem blind_onConnection {α : Type} (x : Async α) :
    Blind password password' (onConnection x) where
  run := by
    intro s _
    have hconn : (s.withPassword password').conn = s.conn := rfl
    rw [onConnection, onConnection, hconn]
    cases x s.conn with
    | ok a conn => rfl
    | error e conn => rfl
  keeps := by
    intro s hs
    rw [final, onConnection]
    cases x s.conn with
    | ok a conn => exact hs
    | error e conn => exact hs

theorem blind_record (event : LoginEvent) : Blind password password' (record event) :=
  commutes_modify (fun _ ↦ rfl) fun _ h ↦ h

theorem blind_readLoginPacket (event : Bytes → LoginEvent) :
    Blind password password' (readLoginPacket event) :=
  (blind_onConnection readPacket).bind fun packet ↦ (blind_record (event packet)).bind fun _ ↦
    commutes_pure packet

theorem blind_writeLoginPacket (packet : Bytes) :
    Blind password password' (writeLoginPacket packet) :=
  (blind_onConnection (writePacket packet)).bind fun _ ↦ blind_record (.wrote packet)

variable (h : ssl.Alike password password')

include h

theorem blind_answerAuthSwitch (payload : Bytes) :
    Blind password password' (answerAuthSwitch ssl payload) := by
  refine (blind_onConnection _).bind fun request ↦ ?_
  have hswitch : Blind password password' (modify fun s ↦ s.switchTo request) :=
    commutes_modify (fun _ ↦ rfl) fun _ hs ↦ hs
  refine hswitch.bind fun _ ↦ Commutes.get_bind ?_ fun s _ ↦
    (blind_onConnection _).bind fun response ↦ blind_writeLoginPacket response
  intro s hs
  have hresponse : buildAuthResponse ssl password' s.scramble s.authPluginName
      = buildAuthResponse ssl s.password s.scramble s.authPluginName := by
    rw [hs]
    exact (h.buildAuthResponse s.scramble s.authPluginName).symm
  change (onConnection (orThrow (buildAuthResponse ssl password' s.scramble s.authPluginName))
    >>= fun response ↦ writeLoginPacket response) = _
  rw [hresponse]

theorem blind_sendEncryptedPassword :
    Blind password password' (sendEncryptedPassword ssl) := by
  refine (blind_writeLoginPacket [2]).bind fun _ ↦ (blind_readLoginPacket _).bind fun key ↦ ?_
  split_ifs
  · exact blind_onConnection _
  · refine Commutes.get_bind ?_ fun s _ ↦ (blind_onConnection _).bind fun encrypted ↦
      blind_writeLoginPacket encrypted
    intro s hs
    have hencrypted : rsaEncryptPassword ssl s.events.length password' s.scramble key
        = rsaEncryptPassword ssl s.events.length s.password s.scramble key := by
      rw [hs]
      exact (h.rsaEncryptPassword s.events.length s.scramble key).symm
    change (onConnection
      (orThrow (rsaEncryptPassword ssl s.events.length password' s.scramble key))
        >>= fun encrypted ↦ writeLoginPacket encrypted) = _
    rw [hencrypted]

theorem blind_answerAuthMoreData (payload : Bytes) :
    Blind password password' (answerAuthMoreData ssl payload) := by
  refine (blind_onConnection _).bind fun data ↦ Commutes.get_bind (fun _ _ ↦ rfl) fun s _ ↦ ?_
  split_ifs with hfast hfull hsecure
  · exact commutes_pure ()
  · exact absurd hsecure nofun
  · exact blind_sendEncryptedPassword h
  · exact commutes_throw _

theorem blind_answerAuth (payload : Bytes) :
    Blind password password' (answerAuth ssl payload) := by
  rw [answerAuth]
  split_ifs
  · exact blind_answerAuthSwitch h payload
  · exact blind_answerAuthMoreData h payload
  · exact commutes_throw _

theorem blind_handleAuthResponse (fuel : ℕ) (payload : Bytes) :
    Blind password password' (handleAuthResponse ssl fuel payload) := by
  induction fuel generalizing payload with
  | zero => exact commutes_throw _
  | succ fuel ih =>
    rw [handleAuthResponse]
    split_ifs
    · exact blind_onConnection _
    · exact (blind_onConnection _).bind fun ok ↦ (blind_onConnection _).bind fun _ ↦
        commutes_pure true
    · exact (blind_answerAuth h payload).bind fun _ ↦ (blind_readLoginPacket _).bind fun next ↦
        ih next

theorem blind_authenticate : Blind password password' (authenticate ssl) :=
  (blind_readLoginPacket _).bind fun authResponse ↦
    Commutes.get_bind (fun _ _ ↦ rfl) fun _ _ ↦ blind_handleAuthResponse h _ authResponse

end Blind

/-! ## The login -/

/-- What holds of a login from here on, whatever the server sends. -/
structure Login.Secure (ssl : Openssl Key) (s : Login) : Prop where
  /-- It succeeds, the last packet being an OK packet, or it fails. -/
  ends : (outcome (authenticate ssl) s = .ok true ∧ ∃ pre packet,
      (Effect.final (authenticate ssl) s).events = pre ++ [.read packet] ∧
        isOkPacket packet = true) ∨
    ∃ e, outcome (authenticate ssl) s = .error e ∧ e ≠ .outOfFuel
  /-- Every auth switch is answered. -/
  switches : ∀ pre packet post,
    (Effect.final (authenticate ssl) s).events = pre ++ .read packet :: post →
    isAuthSwitchRequest packet = true →
    SwitchAnswered ssl s.password packet post (outcome (authenticate ssl) s)
  /-- The password is not written but in a digest or under a key. -/
  sealed : ∀ packet, .wrote packet ∈ (Effect.final (authenticate ssl) s).events →
    Sealed ssl s.password packet
  /-- Nor can the server tell it from one that OpenSSL makes the same of. -/
  blind : ∀ password', ssl.Alike s.password password' →
    authenticate ssl (s.withPassword password')
      = Effect.mapState (fun t ↦ t.withPassword password') (authenticate ssl s)

/-- **Authentication.** The exchange, from the first packet after the handshake response on. -/
theorem Login.secure (ssl : Openssl Key) (s : Login) :
    Login.Secure ssl { s with events := [] } := by
  have hruns := authenticate_rounds ssl { s with events := [] }
  have hblind : ∀ password', ssl.Alike s.password password' →
      authenticate ssl (Login.withPassword { s with events := [] } password')
        = Effect.mapState (fun t ↦ t.withPassword password')
          (authenticate ssl { s with events := [] }) :=
    fun password' h ↦ (blind_authenticate h).run _ rfl
  obtain ⟨e, hne, hruns⟩ | ⟨payload, more, result, hrounds, hruns⟩ := hruns
  · have hevents : (Effect.final (authenticate ssl) { s with events := [] }).events = [] :=
      hruns.events
    refine ⟨Or.inr ⟨e, hruns.outcome, hne⟩, ?_, ?_, hblind⟩
    · intro pre packet post hsplit
      rw [hevents] at hsplit
      exact absurd hsplit (by simp)
    · intro packet hmem
      rw [hevents] at hmem
      exact absurd hmem List.not_mem_nil
  · have hevents : (Effect.final (authenticate ssl) { s with events := [] }).events
        = .read payload :: more := hruns.events
    refine ⟨?_, ?_, ?_, hblind⟩
    · rw [hruns.outcome, hevents]
      exact hrounds.ends
    · intro pre packet post hsplit hkind
      rw [hevents] at hsplit
      rw [hruns.outcome]
      exact hrounds.switch_answered hsplit hkind
    · intro packet hmem
      rw [hevents] at hmem
      exact hrounds.sealed_of_mem ((List.mem_cons.mp hmem).resolve_left nofun)

end Ormpp
