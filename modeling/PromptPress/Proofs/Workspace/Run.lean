import PromptPress.Workspace.Basic

/-!
# Running jobs

`Job.exec` runs a job on a workspace, and `JobOn.exec` runs an operation on a state of its own and a
workspace.  A sequence runs the second part where the first one left off, unless the first one
failed; `exec_bind_eq_ok` takes a successful run of a sequence apart into the two runs it is made
of.

Three notions say what a job does without running it.  A job *maintains* a property if the property
holds after it wherever it held before, whether the job succeeds or fails.  A job *gives* a result
if that is its result in every workspace.  A job *raises* errors of a kind if it fails with no other
ones.
-/

namespace PromptPress

namespace Job

variable {α β : Type}

@[simp] theorem exec_pure (a : α) (p : Workspace) : (pure a : Job α).exec p = (.ok a, p) := rfl

@[simp] theorem exec_throw (e : Error) (p : Workspace) :
    (throw e : Job α).exec p = (.error e, p) := rfl

@[simp] theorem exec_get (p : Workspace) : (get : Job Workspace).exec p = (.ok p, p) := rfl

@[simp] theorem exec_bind (x : Job α) (f : α → Job β) (p : Workspace) :
    (x >>= f).exec p =
      match x.exec p with
      | (.ok a, r) => (f a).exec r
      | (.error e, r) => (.error e, r) := by
  change ExceptT.bindCont f (x.exec p).1 (x.exec p).2 = _
  rcases x.exec p with ⟨_ | _, _⟩ <;> rfl

@[simp] theorem exec_tryCatch (x : Job α) (f : Error → Job α) (p : Workspace) :
    (tryCatch x f).exec p =
      match x.exec p with
      | (.ok a, r) => (.ok a, r)
      | (.error e, r) => (f e).exec r := by
  simp only [exec, tryCatch, tryCatchThe, MonadExceptOf.tryCatch, ExceptT.tryCatch, ExceptT.run,
    ExceptT.mk, bind, StateT.bind, StateT.run]
  rcases x p with ⟨_ | _, _⟩ <;> rfl

/-- What is done in the end is done after a failure as well. -/
@[simp] theorem exec_tryFinally (x : Job α) (f : Workspace → Workspace) (p : Workspace) :
    (tryFinally x (modify f) : Job α).exec p = ((x.exec p).1, f (x.exec p).2) := by
  unfold tryFinally
  simp only [exec, tryFinally', Functor.map, ExceptT.map, ExceptT.run, ExceptT.mk, bind, StateT.bind,
    StateT.run]
  rcases x p with ⟨_ | _, _⟩ <;> rfl

/-- **A sequence succeeds if both of its parts do.** -/
theorem exec_bind_eq_ok {x : Job α} {f : α → Job β} {p q : Workspace} {b : β} :
    (x >>= f).exec p = (.ok b, q) ↔
      ∃ a r, x.exec p = (.ok a, r) ∧ (f a).exec r = (.ok b, q) := by
  rw [exec_bind]
  constructor
  · intro h
    split at h
    · exact ⟨_, _, ‹_›, h⟩
    · simp at h
  · rintro ⟨a, r, hx, hf⟩
    rw [hx]
    exact hf

@[simp] theorem exec_ofExcept (r : Except Error α) (p : Workspace) :
    (ofExcept r).exec p = (r, p) := by
  cases r <;> rfl

theorem exec_ofExcept_eq_ok {r : Except Error α} {p q : Workspace} {a : α} :
    (ofExcept r).exec p = (.ok a, q) ↔ r = .ok a ∧ p = q := by
  rw [exec_ofExcept, Prod.mk.injEq]

/-! ### What a job leaves as it is -/

/-- What holds of a workspace before the job holds of it afterwards. -/
def Maintains (P : Workspace → Prop) (j : Job α) : Prop := ∀ w, P w → P (j.exec w).2

variable {P : Workspace → Prop}

theorem Maintains.of_exec {j : Job α} (h : Maintains P j) {w v : Workspace}
    {r : Except Error α} (hexec : j.exec w = (r, v)) (hw : P w) : P v := by
  have hv := h w hw
  rwa [hexec] at hv

theorem Maintains.pure (a : α) : Maintains P (Pure.pure a : Job α) := fun _ hw => hw

theorem Maintains.throw (e : Error) : Maintains P (MonadExcept.throw e : Job α) := fun _ hw => hw

theorem Maintains.get : Maintains P (MonadState.get : Job Workspace) := fun _ hw => hw

theorem Maintains.modify {f : Workspace → Workspace} (h : ∀ w, P w → P (f w)) :
    Maintains P (modify f : Job Unit) := h

theorem Maintains.ofExcept (r : Except Error α) : Maintains P (Job.ofExcept r) := by
  intro w hw
  rwa [exec_ofExcept]

theorem Maintains.bind {x : Job α} {f : α → Job β} (hx : Maintains P x)
    (hf : ∀ a, Maintains P (f a)) : Maintains P (x >>= f) := by
  intro w hw
  have h := hx w hw
  rw [exec_bind]
  revert h
  rcases x.exec w with ⟨e | a, q⟩
  · exact id
  · exact hf a q

theorem Maintains.tryCatch {x : Job α} {f : Error → Job α} (hx : Maintains P x)
    (hf : ∀ e, Maintains P (f e)) : Maintains P (MonadExcept.tryCatch x f) := by
  intro w hw
  have h := hx w hw
  rw [exec_tryCatch]
  revert h
  rcases x.exec w with ⟨e | a, q⟩
  · exact hf e q
  · exact id

/-! ### What a job gives -/

/-- The result of the job is the same in every workspace. -/
def Gives (j : Job α) (r : Except Error α) : Prop := ∀ w, (j.exec w).1 = r

theorem Gives.pure (a : α) : Gives (Pure.pure a) (.ok a) := fun _ => rfl

theorem Gives.throw (e : Error) : Gives (MonadExcept.throw e : Job α) (.error e) := fun _ => rfl

theorem Gives.ofExcept (r : Except Error α) : Gives (Job.ofExcept r) r := by
  intro w
  rw [exec_ofExcept]

theorem Gives.modify (f : Workspace → Workspace) : Gives (modify f : Job Unit) (.ok ()) :=
  fun _ => rfl

theorem Gives.bind {x : Job α} {f : α → Job β} {r : Except Error α} {g : α → Except Error β}
    (hx : Gives x r) (hf : ∀ a, Gives (f a) (g a)) : Gives (x >>= f) (r.bind g) := by
  intro w
  rw [exec_bind, ← hx w]
  rcases x.exec w with ⟨e | a, q⟩
  · rfl
  · exact hf a q

/-- A part that succeeds with nothing to tell does not count. -/
theorem Gives.seq {x : Job α} {f : α → Job β} {a : α} {r : Except Error β}
    (hx : Gives x (.ok a)) (hf : Gives (f a) r) : Gives (x >>= f) r := by
  intro w
  have h := hx w
  rw [exec_bind]
  revert h
  rcases x.exec w with ⟨e | b, q⟩
  · intro h
    simp at h
  · rintro ⟨⟩
    exact hf q

/-! ### Reports -/

@[simp] theorem exec_report (e : Log.Event) (w : Workspace) :
    (report e).exec w = (.ok (), { w with events := e :: w.events }) := rfl

theorem Gives.report (e : Log.Event) : Gives (Job.report e) (.ok ()) := Gives.modify _

theorem Gives.reportAll (es : List Log.Event) : Gives (Job.reportAll es) (.ok ()) := by
  induction es with
  | nil => exact Gives.pure ()
  | cons e es ih => exact (Gives.report e).seq ih

/-! ### What a job raises -/

/-- Whatever error the job fails with is of the kind. -/
def Raises (Q : Error → Prop) (j : Job α) : Prop := ∀ w e, (j.exec w).1 = .error e → Q e

variable {Q R : Error → Prop}

theorem Raises.mono {j : Job α} (h : Raises Q j) (hQR : ∀ e, Q e → R e) : Raises R j :=
  fun w e he => hQR e (h w e he)

theorem Raises.pure (a : α) : Raises Q (Pure.pure a : Job α) := by
  intro w e he
  cases he

theorem Raises.throw {e : Error} (h : Q e) : Raises Q (MonadExcept.throw e : Job α) := by
  intro w e' he
  cases he
  exact h

theorem Raises.ofExcept {r : Except Error α} (h : ∀ e, r = .error e → Q e) :
    Raises Q (Job.ofExcept r) := by
  intro w e he
  rw [exec_ofExcept] at he
  exact h e he

theorem Raises.bind {x : Job α} {f : α → Job β} (hx : Raises Q x) (hf : ∀ a, Raises Q (f a)) :
    Raises Q (x >>= f) := by
  intro w e he
  have hx := hx w e
  rw [exec_bind] at he
  revert he hx
  rcases x.exec w with ⟨e' | a, v⟩ <;> intro he hx
  · cases he
    exact hx rfl
  · exact hf a v e he

theorem Raises.of_gives_ok {j : Job α} {a : α} (h : Gives j (.ok a)) : Raises Q j := by
  intro w e he
  rw [h w] at he
  cases he

theorem Raises.report (e : Log.Event) : Raises Q (Job.report e) := .of_gives_ok (.report e)

theorem Raises.reportAll (es : List Log.Event) : Raises Q (Job.reportAll es) :=
  .of_gives_ok (.reportAll es)

end Job

/-! ### Operations on a state -/

namespace JobOn

variable {σ α β : Type}

/-- Runs an operation. -/
def exec (j : JobOn σ α) (s : σ) (w : Workspace) : (Except Error α × σ) × Workspace := j s w

@[simp] theorem exec_pure (a : α) (s : σ) (w : Workspace) :
    (pure a : JobOn σ α).exec s w = ((.ok a, s), w) := rfl

@[simp] theorem exec_throw (e : Error) (s : σ) (w : Workspace) :
    (throw e : JobOn σ α).exec s w = ((.error e, s), w) := rfl

@[simp] theorem exec_liftM (j : Job α) (s : σ) (w : Workspace) :
    (liftM j : JobOn σ α).exec s w = (((j.exec w).1, s), (j.exec w).2) := rfl

@[simp] theorem exec_state (s : σ) (w : Workspace) :
    (state : JobOn σ σ).exec s w = ((.ok s, s), w) := rfl

@[simp] theorem exec_setState (t s : σ) (w : Workspace) :
    (setState t : JobOn σ Unit).exec s w = ((.ok (), t), w) := rfl

@[simp] theorem exec_change (f : σ → σ) (s : σ) (w : Workspace) :
    (change f : JobOn σ Unit).exec s w = ((.ok (), f s), w) := rfl

@[simp] theorem exec_bind (x : JobOn σ α) (f : α → JobOn σ β) (s : σ) (w : Workspace) :
    (x >>= f).exec s w =
      match x.exec s w with
      | ((.ok a, t), v) => (f a).exec t v
      | ((.error e, t), v) => ((.error e, t), v) := by
  change ExceptT.bindCont f (x.exec s w).1.1 (x.exec s w).1.2 (x.exec s w).2 = _
  rcases x.exec s w with ⟨⟨_ | _, _⟩, _⟩ <;> rfl

@[simp] theorem exec_tryCatch (x : JobOn σ α) (f : Error → JobOn σ α) (s : σ) (w : Workspace) :
    (tryCatch x f).exec s w =
      match x.exec s w with
      | ((.ok a, t), v) => ((.ok a, t), v)
      | ((.error e, t), v) => (f e).exec t v := by
  simp only [exec, tryCatch, tryCatchThe, MonadExceptOf.tryCatch, ExceptT.tryCatch, ExceptT.mk, bind,
    StateT.bind]
  rcases x s w with ⟨⟨_ | _, _⟩, _⟩ <;> rfl

theorem exec_bind_eq_ok {x : JobOn σ α} {f : α → JobOn σ β} {s t : σ} {w v : Workspace} {b : β} :
    (x >>= f).exec s w = ((.ok b, t), v) ↔
      ∃ a s' w', x.exec s w = ((.ok a, s'), w') ∧ (f a).exec s' w' = ((.ok b, t), v) := by
  rw [exec_bind]
  constructor
  · intro h
    split at h
    · exact ⟨_, _, _, ‹_›, h⟩
    · simp at h
  · rintro ⟨a, s', w', hx, hf⟩
    rw [hx]
    exact hf

theorem exec_liftM_bind_ok {j : Job α} {a : α} {w v : Workspace} (h : j.exec w = (.ok a, v))
    (f : α → JobOn σ β) (s : σ) : ((liftM j : JobOn σ α) >>= f).exec s w = (f a).exec s v := by
  rw [exec_bind, exec_liftM, h]

theorem exec_liftM_bind_error {j : Job α} {e : Error} {w v : Workspace}
    (h : j.exec w = (.error e, v)) (f : α → JobOn σ β) (s : σ) :
    ((liftM j : JobOn σ α) >>= f).exec s w = ((.error e, s), v) := by
  rw [exec_bind, exec_liftM, h]

theorem exec_state_bind (f : σ → JobOn σ β) (s : σ) (w : Workspace) :
    (state >>= f).exec s w = (f s).exec s w := by
  rw [exec_bind, exec_state]

theorem exec_setState_bind (t : σ) (f : Unit → JobOn σ β) (s : σ) (w : Workspace) :
    (setState t >>= f).exec s w = (f ()).exec t w := by
  rw [exec_bind, exec_setState]

theorem exec_change_bind (g : σ → σ) (f : Unit → JobOn σ β) (s : σ) (w : Workspace) :
    (change g >>= f).exec s w = (f ()).exec (g s) w := by
  rw [exec_bind, exec_change]

/-- Reporting an error changes neither the error nor the state. -/
theorem exec_onError_report (x : JobOn σ α) (f : Error → Log.Event) (s : σ) (w : Workspace) :
    ((x.onError fun e => liftM (Job.report (f e))).exec s w).1 = (x.exec s w).1 := by
  unfold onError
  rw [exec_tryCatch]
  rcases x.exec s w with ⟨⟨e | a, t⟩, v⟩
  · dsimp only
    rw [exec_liftM_bind_ok (Job.exec_report _ _), exec_throw]
  · rfl

/-- What holds of the state and the workspace before the operation holds of them afterwards. -/
def Maintains (P : σ → Workspace → Prop) (j : JobOn σ α) : Prop :=
  ∀ s w, P s w → P (j.exec s w).1.2 (j.exec s w).2

variable {P : σ → Workspace → Prop}

theorem Maintains.of_exec {j : JobOn σ α} (h : Maintains P j) {s t : σ} {w v : Workspace}
    {r : Except Error α} (hexec : j.exec s w = ((r, t), v)) (hw : P s w) : P t v := by
  have hv := h s w hw
  rwa [hexec] at hv

theorem Maintains.pure (a : α) : Maintains P (Pure.pure a : JobOn σ α) := fun _ _ h => h

theorem Maintains.throw (e : Error) : Maintains P (MonadExcept.throw e : JobOn σ α) :=
  fun _ _ h => h

theorem Maintains.state : Maintains P (JobOn.state : JobOn σ σ) := fun _ _ h => h

theorem Maintains.setState {t : σ} (h : ∀ s w, P s w → P t w) :
    Maintains P (JobOn.setState t : JobOn σ Unit) := h

theorem Maintains.change {f : σ → σ} (h : ∀ s w, P s w → P (f s) w) :
    Maintains P (JobOn.change f : JobOn σ Unit) := h

theorem Maintains.liftM {j : Job α} (h : ∀ s, j.Maintains (P s)) :
    Maintains P (MonadLiftT.monadLift j : JobOn σ α) := fun s w hw => h s w hw

theorem Maintains.bind {x : JobOn σ α} {f : α → JobOn σ β} (hx : Maintains P x)
    (hf : ∀ a, Maintains P (f a)) : Maintains P (x >>= f) := by
  intro s w hw
  have h := hx s w hw
  rw [exec_bind]
  revert h
  rcases x.exec s w with ⟨⟨e | a, t⟩, v⟩
  · exact id
  · exact hf a t v

theorem Maintains.tryCatch {x : JobOn σ α} {f : Error → JobOn σ α} (hx : Maintains P x)
    (hf : ∀ e, Maintains P (f e)) : Maintains P (MonadExcept.tryCatch x f) := by
  intro s w hw
  have h := hx s w hw
  rw [exec_tryCatch]
  revert h
  rcases x.exec s w with ⟨⟨e | a, t⟩, v⟩
  · exact hf e t v
  · exact id

theorem Maintains.onError {x : JobOn σ α} {f : Error → JobOn σ Unit} (hx : Maintains P x)
    (hf : ∀ e, Maintains P (f e)) : Maintains P (x.onError f) :=
  hx.tryCatch fun e => (hf e).bind fun _ => Maintains.throw e

theorem Maintains.foldlM {f : β → α → JobOn σ β} {l : List α}
    (h : ∀ b, ∀ a ∈ l, Maintains P (f b a)) (b : β) : Maintains P (l.foldlM f b) := by
  induction l generalizing b with
  | nil => exact Maintains.pure b
  | cons a l ih =>
    rw [List.foldlM_cons]
    exact (h b a (List.mem_cons_self)).bind fun b' =>
      ih (fun b a ha => h b a (List.mem_cons_of_mem _ ha)) b'

end JobOn

end PromptPress
