import MetastoreProbe.Client

/-!
# Sessions grow

An action on a session adds to what was seen of it and takes nothing back.  `Session.Took` says
what one action added and what it came to; two actions in a row add up (`Session.Took.bind_ok`),
and one that fails ends the row (`Session.Took.bind_error`).  The state of the client is left out
of this, so the laws hold of a client that keeps whatever it likes.

`Session.Leads` is the other half, for a client that is known: which result an action comes to and
in which state it leaves the client, whatever was seen of the session before.
-/

namespace MetastoreProbe

open Console (Entry)

namespace Session

variable {σ α β : Type}

/-- What an action came to. -/
def resultOf : EStateM.Result Error (Session σ) α → Except Error α
  | .ok a _ => .ok a
  | .error e _ => .error e

/-- The session that an action left, whatever it came to. -/
def leftBy : EStateM.Result Error (Session σ) α → Session σ
  | .ok _ s => s
  | .error _ s => s

@[simp] theorem resultOf_ok (a : α) (s : Session σ) : resultOf (.ok a s) = .ok a := rfl

@[simp] theorem resultOf_error (e : Error) (s : Session σ) :
    resultOf (.error e s : EStateM.Result Error (Session σ) α) = .error e := rfl

@[simp] theorem leftBy_ok (a : α) (s : Session σ) : leftBy (.ok a s) = s := rfl

@[simp] theorem leftBy_error (e : Error) (s : Session σ) :
    leftBy (.error e s : EStateM.Result Error (Session σ) α) = s := rfl

/-- An action that started from the session `s` made the exchanges `xs`, printed the entries `es`
and came to `result`.  In what state it left the client is not said. -/
structure Took (s : Session σ) (xs : List Exchange) (es : List Entry) (result : Except Error α)
    (r : EStateM.Result Error (Session σ) α) : Prop where
  resultOf_eq : resultOf r = result
  exchanges_eq : (leftBy r).exchanges = s.exchanges ++ xs
  console_eq : (leftBy r).console = s.console ++ es

variable {s : Session σ} {xs ys : List Exchange} {es fs : List Entry}

/-- An action that fails keeps what follows it from running. -/
theorem Took.bind_error {p : EStateM Error (Session σ) α} {f : α → EStateM Error (Session σ) β}
    {e : Error} (h : s.Took xs es (.error e) (p s)) : s.Took xs es (.error e) ((p >>= f) s) := by
  obtain ⟨hresult, hexchanges, hconsole⟩ := h
  cases hp : p s with
  | ok a t => simp [hp] at hresult
  | error e' t =>
    simp only [hp, resultOf_error, leftBy_error, Except.error.injEq] at hresult hexchanges hconsole
    simp only [bind, EStateM.bind, hp, hresult]
    exact ⟨rfl, hexchanges, hconsole⟩

/-- What an action does and what the next one does in the session that it left add up. -/
theorem Took.bind_ok {p : EStateM Error (Session σ) α} {f : α → EStateM Error (Session σ) β}
    {a : α} {result : Except Error β} (h : s.Took xs es (.ok a) (p s))
    (next : (leftBy (p s)).Took ys fs result (f a (leftBy (p s)))) :
    s.Took (xs ++ ys) (es ++ fs) result ((p >>= f) s) := by
  obtain ⟨hresult, hexchanges, hconsole⟩ := h
  obtain ⟨hresult', hexchanges', hconsole'⟩ := next
  cases hp : p s with
  | error e t => simp [hp] at hresult
  | ok a' t =>
    simp only [hp, resultOf_ok, leftBy_ok, Except.ok.injEq] at hresult hexchanges hconsole
    simp only [hp, leftBy_ok] at hresult' hexchanges' hconsole'
    simp only [bind, EStateM.bind, hp, hresult]
    exact ⟨hresult', by rw [hexchanges', hexchanges, List.append_assoc],
      by rw [hconsole', hconsole, List.append_assoc]⟩

/-- A result that is only rewritten comes of the same exchanges. -/
theorem Took.bind_pure {p : EStateM Error (Session σ) α} {result : Except Error α}
    (h : s.Took xs es result (p s)) (f : α → β) :
    s.Took xs es (result.map f) ((p >>= fun a => pure (f a)) s) := by
  obtain ⟨rfl, hexchanges, hconsole⟩ := h
  cases hp : p s with
  | ok a t | error e t =>
    simp only [hp, leftBy_ok, leftBy_error] at hexchanges hconsole
    simp only [bind, EStateM.bind, hp]
    exact ⟨rfl, hexchanges, hconsole⟩

theorem took_pure (a : α) (s : Session σ) :
    s.Took [] [] (.ok a) ((pure a : EStateM Error (Session σ) α) s) :=
  ⟨rfl, (List.append_nil _).symm, (List.append_nil _).symm⟩

theorem took_throw (e : Error) (s : Session σ) :
    s.Took [] [] (.error e) ((throw e : EStateM Error (Session σ) α) s) :=
  ⟨rfl, (List.append_nil _).symm, (List.append_nil _).symm⟩

theorem took_print (entry : Entry) (s : Session σ) :
    s.Took [] [entry] (.ok ()) (Session.print entry s) :=
  ⟨rfl, (List.append_nil _).symm, rfl⟩

/-- **A call is one exchange**, and it ends as the client answered. -/
theorem exists_took_call (operation : EStateM Error σ α) (record : Except Error α → Exchange)
    (s : Session σ) :
    ∃ answer, s.Took [record answer] [] answer (Session.call operation record s) := by
  cases h : operation s.client with
  | ok a state => exact ⟨.ok a, by constructor <;> simp [call, h]⟩
  | error e state => exact ⟨.error e, by constructor <;> simp [call, h]⟩

/-! ## The state of the client -/

/-- From the state `m` of the client, the action leads to `result` and to the state `m'`. -/
def Leads (p : EStateM Error (Session σ) α) (m : σ) (result : Except Error α) (m' : σ) : Prop :=
  ∀ s : Session σ, s.client = m → resultOf (p s) = result ∧ (leftBy (p s)).client = m'

variable {m m' m'' : σ}

/-- An action leads to one result and one state only. -/
theorem Leads.unique {p : EStateM Error (Session σ) α} {result result' : Except Error α}
    (h : Leads p m result m') (h' : Leads p m result' m'') : result = result' ∧ m' = m'' := by
  obtain ⟨came, left⟩ := h { client := m } rfl
  obtain ⟨came', left'⟩ := h' { client := m } rfl
  exact ⟨came.symm.trans came', left.symm.trans left'⟩

theorem Leads.bind_ok {p : EStateM Error (Session σ) α} {f : α → EStateM Error (Session σ) β}
    {a : α} {result : Except Error β} (h : Leads p m (.ok a) m')
    (next : Leads (f a) m' result m'') : Leads (p >>= f) m result m'' := by
  intro s start
  obtain ⟨came, left⟩ := h s start
  cases hp : p s with
  | error e t => simp [hp] at came
  | ok a' t =>
    simp only [hp, resultOf_ok, leftBy_ok, Except.ok.injEq] at came left
    simp only [bind, EStateM.bind, hp, came]
    exact next t left

theorem Leads.bind_error {p : EStateM Error (Session σ) α} {f : α → EStateM Error (Session σ) β}
    {e : Error} (h : Leads p m (.error e) m') : Leads (p >>= f) m (.error e) m' := by
  intro s start
  obtain ⟨came, left⟩ := h s start
  cases hp : p s with
  | ok a t => simp [hp] at came
  | error e' t =>
    simp only [hp, resultOf_error, leftBy_error, Except.error.injEq] at came left
    simp only [bind, EStateM.bind, hp, came]
    exact ⟨rfl, left⟩

theorem leads_pure (a : α) (m : σ) :
    Leads (pure a : EStateM Error (Session σ) α) m (.ok a) m :=
  fun _ start => ⟨rfl, start⟩

theorem leads_throw (e : Error) (m : σ) :
    Leads (throw e : EStateM Error (Session σ) α) m (.error e) m :=
  fun _ start => ⟨rfl, start⟩

theorem leads_print (entry : Entry) (m : σ) : Leads (Session.print entry) m (.ok ()) m :=
  fun _ start => ⟨rfl, start⟩

/-- A result that is only rewritten leaves the client in the same state. -/
theorem Leads.bind_pure {p : EStateM Error (Session σ) α} {result : Except Error α}
    (h : Leads p m result m') (f : α → β) :
    Leads (p >>= fun a => pure (f a)) m (result.map f) m' := by
  cases result with
  | ok a => exact h.bind_ok (leads_pure (f a) m')
  | error e => exact h.bind_error

/-- Actions that leave the client as it is do so one after the other. -/
theorem leads_mapM {ι : Type} {xs : List ι} {p : ι → EStateM Error (Session σ) α} {g : ι → α}
    (h : ∀ x ∈ xs, Leads (p x) m (.ok (g x)) m) : Leads (xs.mapM p) m (.ok (xs.map g)) m := by
  induction xs with
  | nil => exact leads_pure [] m
  | cons x xs ih =>
    obtain ⟨first, others⟩ := List.forall_mem_cons.1 h
    rw [List.mapM_cons]
    exact first.bind_ok ((ih others).bind_ok (leads_pure _ m))

/-- A call leads where the operation of the client does. -/
theorem leads_call {operation : EStateM Error σ α} {a : α} (h : operation m = .ok a m')
    (record : Except Error α → Exchange) : Leads (call operation record) m (.ok a) m' := by
  rintro s rfl
  simp only [call, h]
  exact ⟨rfl, rfl⟩

theorem leads_call_of_error {operation : EStateM Error σ α} {e : Error}
    (h : operation m = .error e m') (record : Except Error α → Exchange) :
    Leads (call operation record) m (.error e) m' := by
  rintro s rfl
  simp only [call, h]
  exact ⟨rfl, rfl⟩

end Session

end MetastoreProbe
