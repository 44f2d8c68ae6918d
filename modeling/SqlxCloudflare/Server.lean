import SqlxCloudflare.Machine

/-!
# SqlxCloudflare.Server

One server, and the futures that call it.  A future does nothing until it is
polled.  Its first poll resolves it at once, or sends a request, which the
server serves at some later step, one request at a time.  A future may be
dropped at any point, and what it has sent is served all the same.

* `session` -- calls one after another, each of them alone, and `session_view`,
  what is to be seen of them;
* `Sound`, `Sound.step` -- the invariant: the state, and every answer there is,
  are those of the session of the calls that were served;
* `linearizable` -- so in every interleaving;
* `served_of_run` -- the order of that session is the order in time.
-/

/-- What a call comes to when it is first polled. -/
inductive Server.Poll (V S : Type) where
  /-- It resolves at once. -/
  | ready (value : V)
  /-- It sends a request: what serving it does to the state, and what the call
  then resolves to. -/
  | sends (request : S → V × S)

/-- Where a future has got to. -/
inductive Server.Phase (V S : Type) where
  | made
  | sent (request : S → V × S)
  | answered (value : V)
  | resolved (value : V)

structure Server.Future (C V S : Type) where
  call : C
  phase : Server.Phase V S
  dropped : Bool

structure Server (C V S : Type) where
  state : S
  futures : List (Server.Future C V S)
  /-- The calls that were served, in order, with the future of each. -/
  served : List (ℕ × C)

/-- One step, of one of the futures or of the server. -/
inductive Server.Label (C : Type) where
  | make (call : C)
  | poll (i : ℕ)
  | serve (i : ℕ)
  | drop (i : ℕ)

namespace Server

variable {C V S : Type}

def start (s : S) : Server C V S := ⟨s, [], []⟩

/-- Where the first poll leaves a future. -/
def Poll.phase : Poll V S → Phase V S
  | .ready value => .resolved value
  | .sends request => .sent request

/-- One future is now `f`. -/
def set (i : ℕ) (f : Future C V S) (t : Server C V S) : Server C V S :=
  { t with futures := t.futures.set i f }

/-- One step, where it is enabled. -/
def step (service : C → Poll V S) : Label C → Server C V S → Option (Server C V S)
  | .make call, t => some { t with futures := t.futures ++ [⟨call, .made, false⟩] }
  | .poll i, t =>
    match t.futures[i]? with
    | some ⟨call, .made, false⟩ => some (t.set i ⟨call, (service call).phase, false⟩)
    | some ⟨_, .sent _, false⟩ => some t
    | some ⟨call, .answered value, false⟩ => some (t.set i ⟨call, .resolved value, false⟩)
    | _ => none
  | .serve i, t =>
    match t.futures[i]? with
    | some ⟨call, .sent request, dropped⟩ =>
      let (value, s) := request t.state
      some { t.set i ⟨call, .answered value, dropped⟩ with
        state := s
        served := t.served ++ [(i, call)] }
    | _ => none
  | .drop i, t =>
    match t.futures[i]? with
    | some ⟨call, phase, false⟩ => some (t.set i ⟨call, phase, true⟩)
    | _ => none

/-! ## calls one after another -/

/-- A call that is polled, served and polled again with nothing in between. -/
def Poll.alone : Poll V S → S → V × S
  | .ready value, s => (value, s)
  | .sends request, s => request s

def alone (service : C → Poll V S) (call : C) (s : S) : V × S := (service call).alone s

/-- Calls one after another. -/
def session (perform : C → S → V × S) : List C → S → List V × S
  | [], s => ([], s)
  | call :: calls, s =>
    let (value, s) := perform call s
    let (values, s) := session perform calls s
    (value :: values, s)

theorem session_append (perform : C → S → V × S) (calls calls' : List C) (s : S) :
    session perform (calls ++ calls') s =
      ((session perform calls s).1 ++ (session perform calls' (session perform calls s).2).1,
        (session perform calls' (session perform calls s).2).2) := by
  induction calls generalizing s with
  | nil => rfl
  | cons call calls ih => simp only [List.cons_append, session, ih]

theorem length_session (perform : C → S → V × S) (calls : List C) (s : S) :
    (session perform calls s).1.length = calls.length := by
  induction calls generalizing s with
  | nil => rfl
  | cons call calls ih => simp only [session, List.length_cons, ih]

/-- Calls that are each what another machine does, seen through `told` and
`view`, are so one after another. -/
theorem session_view {W S' : Type} {perform : C → S → V × S} {perform' : C → S' → W × S'}
    {told : V → W} {view : S → S'}
    (h : ∀ call s, (told (perform call s).1, view (perform call s).2) = perform' call (view s))
    (calls : List C) (s : S) :
    ((session perform calls s).1.map told, view (session perform calls s).2) =
      session perform' calls (view s) := by
  induction calls generalizing s with
  | nil => rfl
  | cons call calls ih => simp only [session, ← h, ← ih, List.map_cons]

/-- One of the calls, and the values of those before it. -/
theorem session_at (perform : C → S → V × S) {calls : List C} {k : ℕ} {call : C}
    (h : calls[k]? = some call) (s : S) :
    (session perform calls s).1.take k = (session perform (calls.take k) s).1 ∧
      (session perform calls s).1[k]? =
        some (perform call (session perform (calls.take k) s).2).1 := by
  induction calls generalizing k s with
  | nil => cases h
  | cons first calls ih =>
      cases k with
      | zero =>
          cases h
          exact ⟨rfl, rfl⟩
      | succ k =>
          obtain ⟨hvalues, hvalue⟩ := ih h (perform first s).2
          exact ⟨congrArg ((perform first s).1 :: ·) hvalues, hvalue⟩

/-- The last of the calls. -/
theorem session_concat (perform : C → S → V × S) (calls : List C) (call : C) (s : S) :
    session perform (calls ++ [call]) s =
      ((session perform calls s).1 ++ [(perform call (session perform calls s).2).1],
        (perform call (session perform calls s).2).2) := session_append perform calls [call] s

/-! ## what a step does -/

/-- What a step does. -/
inductive Step (service : C → Poll V S) (t : Server C V S) : Label C → Server C V S → Prop where
  | make (call : C) :
      Step service t (.make call) { t with futures := t.futures ++ [⟨call, .made, false⟩] }
  | first (i : ℕ) (call : C) (h : t.futures[i]? = some ⟨call, .made, false⟩) :
      Step service t (.poll i) (t.set i ⟨call, (service call).phase, false⟩)
  | pending (i : ℕ) : Step service t (.poll i) t
  | last (i : ℕ) (call : C) (value : V) (h : t.futures[i]? = some ⟨call, .answered value, false⟩) :
      Step service t (.poll i) (t.set i ⟨call, .resolved value, false⟩)
  | serve (i : ℕ) (call : C) (request : S → V × S) (dropped : Bool)
      (h : t.futures[i]? = some ⟨call, .sent request, dropped⟩) :
      Step service t (.serve i) { t.set i ⟨call, .answered (request t.state).1, dropped⟩ with
        state := (request t.state).2
        served := t.served ++ [(i, call)] }
  | drop (i : ℕ) (call : C) (phase : Phase V S) (h : t.futures[i]? = some ⟨call, phase, false⟩) :
      Step service t (.drop i) (t.set i ⟨call, phase, true⟩)

variable {service : C → Poll V S} {label : Label C} {s : S} {t u : Server C V S}

/-- A step that can be taken does one of these. -/
theorem step_of_eq_some (h : step service label t = some u) : Step service t label u := by
  cases label with
  | make call =>
      cases h
      exact .make call
  | poll i =>
      simp only [step] at h
      split at h
      · next call hfuture =>
          cases h
          exact .first i call hfuture
      · cases h
        exact .pending i
      · next call value hfuture =>
          cases h
          exact .last i call value hfuture
      · cases h
  | serve i =>
      simp only [step] at h
      split at h
      · next call request dropped hfuture =>
          cases h
          exact .serve i call request dropped hfuture
      · cases h
  | drop i =>
      simp only [step] at h
      split at h
      · next call phase hfuture =>
          cases h
          exact .drop i call phase hfuture
      · cases h

/-! ## the invariant -/

/-- No call of the future was served. -/
def Unserved (served : List (ℕ × C)) (i : ℕ) : Prop := ∀ entry ∈ served, entry.1 ≠ i

/-- The call of the future was served, and answered `value`. -/
def Answers (service : C → Poll V S) (s : S) (served : List (ℕ × C)) (i : ℕ) (call : C)
    (value : V) : Prop :=
  ∃ k : ℕ, served[k]? = some (i, call) ∧
    (session (alone service) (served.map Prod.snd) s).1[k]? = some value

/-- What is known of a future, by where it has got to. -/
def Told (service : C → Poll V S) (s : S) (served : List (ℕ × C)) (i : ℕ)
    (f : Future C V S) : Prop :=
  match f.phase with
  | .made => Unserved served i
  | .sent request => service f.call = .sends request ∧ Unserved served i
  | .answered value => Answers service s served i f.call value
  | .resolved value => (service f.call = .ready value ∧ Unserved served i) ∨
      Answers service s served i f.call value

/-- What holds of every server that was started at `s`. -/
structure Sound (service : C → Poll V S) (s : S) (t : Server C V S) : Prop where
  state : t.state = (session (alone service) (t.served.map Prod.snd) s).2
  nodup : (t.served.map Prod.fst).Nodup
  made : ∀ entry ∈ t.served, ∃ f, t.futures[entry.1]? = some f ∧ f.call = entry.2
  sends : ∀ entry ∈ t.served, ∃ request, service entry.2 = .sends request
  told : ∀ i f, t.futures[i]? = some f → Told service s t.served i f

theorem sound_start (service : C → Poll V S) (s : S) :
    (start s : Server C V S).Sound service s := by
  constructor <;> simp [start, session]

/-- A future that is another now, with the same call, is there still. -/
theorem exists_set {i j : ℕ} {f f' : Future C V S} {call : C} (hfuture : t.futures[i]? = some f)
    (hcall : f'.call = f.call) (h : ∃ g, t.futures[j]? = some g ∧ g.call = call) :
    ∃ g, (t.set i f').futures[j]? = some g ∧ g.call = call := by
  obtain ⟨g, hg, hgcall⟩ := h
  by_cases hj : j = i
  · subst hj
    rw [hfuture] at hg
    cases hg
    have hlt := (List.getElem?_eq_some_iff.mp hfuture).1
    exact ⟨f', by rw [set, List.getElem?_set_self hlt], hcall.trans hgcall⟩
  · exact ⟨g, by rw [set, List.getElem?_set_ne (Ne.symm hj), hg], hgcall⟩

/-- The futures are the one that was set and, of the others, what they were. -/
theorem getElem?_set_cases {i j : ℕ} {f f' g : Future C V S} (hfuture : t.futures[i]? = some f)
    (hg : (t.set i f').futures[j]? = some g) :
    (j = i ∧ g = f') ∨ (j ≠ i ∧ t.futures[j]? = some g) := by
  by_cases hj : j = i
  · subst hj
    have hlt := (List.getElem?_eq_some_iff.mp hfuture).1
    rw [set, List.getElem?_set_self hlt] at hg
    cases hg
    exact .inl ⟨rfl, rfl⟩
  · rw [set, List.getElem?_set_ne (Ne.symm hj)] at hg
    exact .inr ⟨hj, hg⟩

/-- A step of one future that the server has no part in. -/
theorem Sound.set (h : t.Sound service s) {i : ℕ} {f f' : Future C V S}
    (hfuture : t.futures[i]? = some f) (hcall : f'.call = f.call)
    (htold : Told service s t.served i f') : (t.set i f').Sound service s where
  state := h.state
  nodup := h.nodup
  made := fun entry hentry => exists_set hfuture hcall (h.made entry hentry)
  sends := h.sends
  told := by
    intro j g hg
    rcases getElem?_set_cases hfuture hg with ⟨rfl, rfl⟩ | ⟨_, hg⟩
    · exact htold
    · exact h.told j g hg

/-- What was answered stays answered. -/
theorem Answers.concat {served : List (ℕ × C)} {i : ℕ} {call : C} {value : V}
    (h : Answers service s served i call value) (entry : ℕ × C) :
    Answers service s (served ++ [entry]) i call value := by
  obtain ⟨k, hk, hvalue⟩ := h
  have hlt := (List.getElem?_eq_some_iff.mp hk).1
  have hlt' := (List.getElem?_eq_some_iff.mp hvalue).1
  refine ⟨k, by rw [List.getElem?_append_left hlt, hk], ?_⟩
  rw [List.map_append, List.map_singleton, session_concat, List.getElem?_append_left hlt', hvalue]

/-- The call served last. -/
theorem answers_concat_self (service : C → Poll V S) (s : S) (served : List (ℕ × C)) (i : ℕ)
    (call : C) : Answers service s (served ++ [(i, call)]) i call
      (alone service call (session (alone service) (served.map Prod.snd) s).2).1 := by
  refine ⟨served.length, by simp, ?_⟩
  have hlength := length_session (alone service) (served.map Prod.snd) s
  rw [List.length_map] at hlength
  rw [List.map_append, List.map_singleton, session_concat, ← hlength]
  simp

/-- Serving another future's call. -/
theorem Told.concat {served : List (ℕ × C)} {i j : ℕ} {f : Future C V S}
    (h : Told service s served i f) (hne : i ≠ j) (call : C) :
    Told service s (served ++ [(j, call)]) i f := by
  have hunserved : Unserved served i → Unserved (served ++ [(j, call)]) i := by
    intro hold entry hentry
    rcases List.mem_append.mp hentry with hmem | hmem
    · exact hold entry hmem
    · rw [List.mem_singleton.mp hmem]
      exact hne.symm
  obtain ⟨call', phase, dropped⟩ := f
  cases phase with
  | made => exact hunserved h
  | sent request => exact ⟨h.1, hunserved h.2⟩
  | answered value =>
      have hanswers : Answers service s served i call' value := h
      exact hanswers.concat _
  | resolved value => exact h.imp (fun hready => ⟨hready.1, hunserved hready.2⟩) (·.concat _)

/-- Every step keeps the invariant. -/
theorem Sound.step (h : t.Sound service s) (hstep : Server.step service label t = some u) :
    u.Sound service s := by
  cases step_of_eq_some hstep with
  | make call =>
      refine ⟨h.state, h.nodup, fun entry hentry => ?_, h.sends, fun i f hf => ?_⟩
      · obtain ⟨g, hg, hgcall⟩ := h.made entry hentry
        have hlt := (List.getElem?_eq_some_iff.mp hg).1
        exact ⟨g, by rw [List.getElem?_append_left hlt, hg], hgcall⟩
      · rcases lt_or_ge i t.futures.length with hlt | hge
        · rw [List.getElem?_append_left hlt] at hf
          exact h.told i f hf
        · rw [List.getElem?_append_right hge] at hf
          obtain rfl := List.mem_singleton.mp (List.mem_of_getElem? hf)
          -- the future is new
          intro entry hentry hi
          obtain ⟨g, hg, _⟩ := h.made entry hentry
          have hlt := (List.getElem?_eq_some_iff.mp hg).1
          omega
  | first i call hfuture =>
      have hunserved : Unserved t.served i := h.told i _ hfuture
      refine h.set hfuture rfl ?_
      cases hpoll : service call with
      | ready value => exact .inl ⟨hpoll, hunserved⟩
      | sends request => exact ⟨hpoll, hunserved⟩
  | pending i => exact h
  | last i call value hfuture => exact h.set hfuture rfl (.inr (h.told i _ hfuture))
  | drop i call phase hfuture =>
      exact h.set hfuture rfl (h.told i ⟨call, phase, false⟩ hfuture)
  | serve i call request dropped hfuture =>
      obtain ⟨hsends, hunserved⟩ : service call = .sends request ∧ Unserved t.served i :=
        h.told i _ hfuture
      have halone : ∀ s, alone service call s = request s := by
        intro s
        rw [alone, hsends, Poll.alone]
      refine ⟨?_, ?_, fun entry hentry => ?_, fun entry hentry => ?_, fun j g hg => ?_⟩
      · rw [List.map_append, List.map_singleton, session_concat, halone, ← h.state]
      · have hnot : i ∉ t.served.map Prod.fst := by
          intro hmem
          obtain ⟨entry, hentry, hi⟩ := List.mem_map.mp hmem
          exact hunserved entry hentry hi
        rw [List.map_append, List.map_singleton, ← List.concat_eq_append]
        exact h.nodup.concat hnot
      · rcases List.mem_append.mp hentry with hold | hnew
        · exact exists_set hfuture rfl (h.made entry hold)
        · rw [List.mem_singleton.mp hnew]
          exact exists_set hfuture rfl ⟨_, hfuture, rfl⟩
      · rcases List.mem_append.mp hentry with hold | hnew
        · exact h.sends entry hold
        · rw [List.mem_singleton.mp hnew]
          exact ⟨request, hsends⟩
      · rcases getElem?_set_cases hfuture hg with ⟨rfl, rfl⟩ | ⟨hne, hg⟩
        · have hanswers := answers_concat_self service s t.served j call
          rw [halone, ← h.state] at hanswers
          exact hanswers
        · exact (h.told j g hg).concat hne call

/-- The invariant holds after every run. -/
theorem sound_of_run {labels : List (Label C)}
    (h : Machine.run (Server.step service) (start s) labels = some t) : t.Sound service s :=
  Machine.invariant (fun _ _ _ ht hstep => ht.step hstep) (sound_start service s) h

/-! ## in time -/

/-- What has been served stays served, before what is served later. -/
theorem served_step (hstep : Server.step service label t = some u) : t.served <+: u.served := by
  cases step_of_eq_some hstep with
  | make call => exact List.prefix_rfl
  | first i call h => exact List.prefix_rfl
  | pending i => exact List.prefix_rfl
  | last i call value h => exact List.prefix_rfl
  | serve i call request dropped h => exact List.prefix_append _ _
  | drop i call phase h => exact List.prefix_rfl

theorem served_of_run {labels : List (Label C)}
    (h : Machine.run (Server.step service) t labels = some u) : t.served <+: u.served :=
  Machine.invariant (I := fun u => t.served <+: u.served)
    (fun _ _ _ hprefix hstep => hprefix.trans (served_step hstep)) List.prefix_rfl h

/-- A future keeps its call. -/
theorem call_step {i : ℕ} {call : C} (h : ∃ f, t.futures[i]? = some f ∧ f.call = call)
    (hstep : Server.step service label t = some u) :
    ∃ f, u.futures[i]? = some f ∧ f.call = call := by
  cases step_of_eq_some hstep with
  | make call' =>
      obtain ⟨f, hf, hcall⟩ := h
      have hlt := (List.getElem?_eq_some_iff.mp hf).1
      exact ⟨f, by rw [List.getElem?_append_left hlt, hf], hcall⟩
  | first j call' hfuture => exact exists_set hfuture rfl h
  | pending j => exact h
  | last j call' value hfuture => exact exists_set hfuture rfl h
  | serve j call' request dropped hfuture => exact exists_set hfuture rfl h
  | drop j call' phase hfuture => exact exists_set hfuture rfl h

theorem call_of_run {labels : List (Label C)} {i : ℕ} {f : Future C V S}
    (hf : t.futures[i]? = some f) (h : Machine.run (Server.step service) t labels = some u) :
    ∃ g, u.futures[i]? = some g ∧ g.call = f.call :=
  Machine.invariant (I := fun u => ∃ g, u.futures[i]? = some g ∧ g.call = f.call)
    (fun _ _ _ hcall hstep => call_step hcall hstep) ⟨f, hf, rfl⟩ h

/-- The future has resolved. -/
def Resolved (t : Server C V S) (i : ℕ) (call : C) (value : V) : Prop :=
  ∃ dropped, t.futures[i]? = some ⟨call, .resolved value, dropped⟩

/-- The future was not polled yet, or is not made. -/
def Unpolled (t : Server C V S) (i : ℕ) : Prop := ∀ f, t.futures[i]? = some f → f.phase = .made

/-- A future that was not polled was not served. -/
theorem Sound.unserved (h : t.Sound service s) {i : ℕ} (hunpolled : t.Unpolled i) :
    Unserved t.served i := by
  intro entry hentry hi
  obtain ⟨f, hf, _⟩ := h.made entry hentry
  rw [hi] at hf
  have htold := h.told i f hf
  rw [Told, hunpolled f hf] at htold
  exact htold entry hentry hi

/-- A call that was served and has resolved, was served before those that were
first polled later. -/
theorem served_before (ht : t.Sound service s) (hu : u.Sound service s) {labels : List (Label C)}
    (hrun : Machine.run (Server.step service) t labels = some u) {i j m n : ℕ} {call a b : C}
    {value : V} (hi : t.Resolved i call value) (hj : t.Unpolled j)
    (hm : u.served[m]? = some (i, a)) (hn : u.served[n]? = some (j, b)) : m < n := by
  obtain ⟨dropped, hfuture⟩ := hi
  obtain ⟨later, hlater⟩ := served_of_run hrun
  have hserved : ∃ k : ℕ, t.served[k]? = some (i, call) := by
    rcases ht.told i _ hfuture with ⟨hready, _⟩ | ⟨k, hk, _⟩
    · -- a call that resolved at once is never served
      obtain ⟨g, hg, hgcall⟩ := call_of_run hfuture hrun
      obtain ⟨g', hg', hg'call⟩ := hu.made _ (List.mem_of_getElem? hm)
      obtain ⟨request, hsends⟩ := hu.sends _ (List.mem_of_getElem? hm)
      rw [hg] at hg'
      cases hg'
      rw [← hg'call, hgcall, hready] at hsends
      cases hsends
    · exact ⟨k, hk⟩
  obtain ⟨k, hk⟩ := hserved
  have hklt := (List.getElem?_eq_some_iff.mp hk).1
  have hkm : k = m := by
    have hk' : u.served[k]? = some (i, call) := by
      rw [← hlater, List.getElem?_append_left hklt, hk]
    have hfirst : (u.served.map Prod.fst)[k]? = (u.served.map Prod.fst)[m]? := by
      rw [List.getElem?_map, List.getElem?_map, hk', hm]
      rfl
    have hlt : k < (u.served.map Prod.fst).length := by
      have := (List.getElem?_eq_some_iff.mp hk').1
      simpa using this
    exact (List.getElem?_inj hlt hu.nodup).mp hfirst
  have hge : t.served.length ≤ n := by
    by_contra hlt
    rw [← hlater, List.getElem?_append_left (by omega)] at hn
    exact ht.unserved hj _ (List.mem_of_getElem? hn) rfl
  omega

/-- **The futures of one server are linearizable**: its state is what the calls
that were served leave one after another, each served once; a future that has
resolved answers at once, or as its call does in that session; and the order of
the session is the order in time. -/
theorem linearizable {before after : List (Label C)}
    (hbefore : Machine.run (Server.step service) (start s) before = some t)
    (hafter : Machine.run (Server.step service) t after = some u) :
    u.state = (session (alone service) (u.served.map Prod.snd) s).2 ∧
      (u.served.map Prod.fst).Nodup ∧
      (∀ i call value, u.Resolved i call value →
        (service call = .ready value ∧ Unserved u.served i) ∨
          Answers service s u.served i call value) ∧
      ∀ (i j m n : ℕ) call value a b, t.Resolved i call value → t.Unpolled j →
        u.served[m]? = some (i, a) → u.served[n]? = some (j, b) → m < n := by
  have ht : t.Sound service s := sound_of_run hbefore
  have hu : u.Sound service s := sound_of_run ((Machine.run_append after hbefore).trans hafter)
  refine ⟨hu.state, hu.nodup, ?_, ?_⟩
  · rintro i call value ⟨dropped, hfuture⟩
    exact hu.told i _ hfuture
  · intro i j m n call value a b hi hj hm hn
    exact served_before ht hu hafter hi hj hm hn

end Server
