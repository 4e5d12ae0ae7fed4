import CloudDirector.Proofs.Catalog.Builtin
import CloudDirector.Proofs.Client.Replies
import CloudDirector.Proofs.Payload.Faults

/-!
# Types that are not registered

A call that fails for a type that is not registered has sent nothing.  Such a failure can come from
checking what is expected and from encoding the body, and both are done before the request is sent.
What comes after it meets registered types only: the shape that a body is decoded as has been
checked, validation has checked the shapes of all fields, discriminators select registered types,
and the task that a reply points at is asked for by a name that is registered.
-/

namespace CloudDirector

/-! ## Results that do not fail for an unknown type -/

namespace Result

variable {α β : Type} {x : Result α}

/-- The report of a failure. -/
def report? : Result α → Option Report
  | .ok _ => none
  | .error r => some r

lemma report?_eq_some_iff {r : Report} : x.report? = some r ↔ x = .error r := by
  cases x with
  | ok a => simp [report?]
  | error e => simp [report?]

/-- If the result is a failure, then not for a type that is not registered. -/
def NotUnregistered (x : Result α) : Prop :=
  ∀ r, x = .error r → ∀ name, r.failure ≠ .notRegistered name

@[simp] lemma notUnregistered_ok (a : α) : NotUnregistered (.ok a) := by
  intro r h
  cases h

lemma notUnregistered_fail {failure : Failure} (h : ∀ name, failure ≠ .notRegistered name) :
    NotUnregistered (fail failure : Result α) := by
  intro r hr name
  cases hr
  exact h name

@[simp] lemma notUnregistered_failSetup (fault : SetupFault) :
    NotUnregistered (failSetup fault : Result α) :=
  notUnregistered_fail fun _ h => nomatch h

@[simp] lemma notUnregistered_failValue (fault : ValueFault) :
    NotUnregistered (failValue fault : Result α) :=
  notUnregistered_fail fun _ h => nomatch h

lemma NotUnregistered.map (h : x.NotUnregistered) (f : α → β) :
    NotUnregistered (Except.map f x) := by
  intro r hr
  exact h r (Result.map_eq_error.1 hr)

lemma NotUnregistered.passing (h : x.NotUnregistered) (place : Place) :
    (x.passing place).NotUnregistered := by
  intro r hr
  obtain ⟨e, he, rfl⟩ := Result.passing_eq_error.1 hr
  exact h e he

lemma NotUnregistered.bind {f : α → Result β} (h : x.NotUnregistered)
    (hf : ∀ a, x = .ok a → (f a).NotUnregistered) : NotUnregistered (x >>= f) := by
  intro r hr
  rcases Result.bind_eq_error.1 hr with hx | ⟨a, ha, hfa⟩
  · exact h r hx
  · exact hf a ha r hfa

end Result

/-! ## Decoding -/

namespace Registry

variable {reg : Registry} {s : Schema}

/-- All types that the shape names, at any depth, are registered. -/
def Knows (reg : Registry) (shape : Descriptor) : Prop :=
  ∀ name, shape.Refers name → ∃ entry, reg.lookup? name = some entry

/-- A shape names one type at most, and that is the one that is looked for before sending. -/
lemma knows_of_reference? {shape : Descriptor}
    (h : ∀ name, shape.reference? = some name → reg.isRegistered name = true) :
    reg.Knows shape := by
  intro name hrefers
  exact Option.isSome_iff_exists.1 (h name (Descriptor.reference?_eq_some_iff.2 hrefers))

/-- The shapes of all fields, inherited ones included, name registered types only. -/
lemma IsValid.knows (hreg : reg.IsValid) {typeName : String} {specs : List (String × FieldSpec)}
    (hspecs : reg.resolvedFields typeName = .ok specs) {field : String × FieldSpec}
    (hfield : field ∈ specs) : reg.Knows field.2.shape := by
  obtain ⟨ancestor, t, -, ht, hown⟩ := declares_of_mem_resolvedFields hspecs hfield
  exact hreg.resolves.references t (hreg.coherent.mem_schemas ht) field hown

/-- What is indexed under a discriminator is registered. -/
lemma Coherent.resolveDiscriminator_notUnregistered (hreg : reg.Coherent) (base value : String) :
    (reg.resolveDiscriminator base value).NotUnregistered := by
  rw [resolveDiscriminator]
  split
  · exact Result.notUnregistered_failSetup _
  · next concrete hconcrete =>
    split
    · obtain ⟨t, ht, -⟩ := hreg.indexed.1 hconcrete
      rw [schema_eq_ok_iff.2 ht]
      exact Result.notUnregistered_ok t
    · exact Result.notUnregistered_failSetup _

end Registry

namespace Payload

variable {reg : Registry} {shape : Descriptor} {j : Json}

lemma concreteSchema_notUnregistered (hreg : reg.Coherent) (j : Json) (s : Schema) :
    (concreteSchema reg j s).NotUnregistered := by
  intro r h
  obtain ⟨value, -, hresolve⟩ := concreteSchema_eq_error h
  exact hreg.resolveDiscriminator_notUnregistered s.typeName value r hresolve

/-- Planning looks up the type that the shape names and the one that a discriminator selects. -/
lemma plan_notUnregistered (hreg : reg.Coherent) (hshape : reg.Knows shape) (j : Json) :
    (plan reg j shape).NotUnregistered := by
  cases shape with
  | scalar _ | list _ | map _ => exact Result.notUnregistered_ok _
  | named name =>
    obtain ⟨entry, hentry⟩ := hshape name (.named name)
    rw [plan, hentry]
    cases entry with
    | enum e => exact Result.notUnregistered_ok _
    | schema s =>
      simp only
      split
      · exact (concreteSchema_notUnregistered hreg j s).map _
      · exact Result.notUnregistered_ok _
  | polymorphic base =>
    obtain ⟨entry, hentry⟩ := hshape base (.polymorphic base)
    rw [plan, Registry.schema, hentry]
    cases entry with
    | enum e => exact Result.notUnregistered_failSetup (.notRecordType base)
    | schema s => exact (concreteSchema_notUnregistered hreg j s).map _

/-- In a valid registry, no payload makes decoding fail for a type that is not registered, if the
shape names registered types. -/
lemma decode_notUnregistered (hreg : reg.IsValid) (hshape : reg.Knows shape) :
    (decode reg j shape).NotUnregistered := by
  induction j using Json.induction generalizing shape with
  | step j ih =>
    intro r h
    -- what a part is refused for, the whole is refused for
    cases refused_of_decode h with
    | value fault =>
      intro name hname
      cases hname
    | unplanned hplan => exact plan_notUnregistered hreg.coherent hshape j r hplan
    | unresolved hplan hspecs =>
      obtain ⟨specs, hok⟩ := hreg.exists_resolvedFields (lookup?_of_plan hreg.coherent hplan)
      rw [hok] at hspecs
      cases hspecs
    | part henters he =>
      cases henters with
      | item _ =>
        have hpart := ih _ (.item List.mem_append_cons_self) fun name h => hshape name (.list h)
        have hknown := hpart _ he
        exact hknown
      | entry _ =>
        have hpart := ih _ (.member List.mem_append_cons_self) fun name h => hshape name (.map h)
        have hknown := hpart _ he
        exact hknown
      | field _ hspecs hget _ =>
        have hpart := ih _ (.member (Members.mem_of_get?_eq_some hget))
          (hreg.knows hspecs List.mem_append_cons_self)
        have hknown := hpart _ he
        exact hknown

end Payload

/-! ## Before a request is sent -/

namespace Client

variable {c : Client} {request : CallRequest} {arrivals : List Arrival} {p : Prepared}

/-- The target names registered types only. -/
def Knows (c : Client) (target : Option Target) : Prop :=
  ∀ shape, target = some (.decode shape) → c.registry.Knows shape

lemma knows_of_target {expression : String} {target : Target}
    (h : c.target expression = .ok target) : c.Knows (some target) := by
  rintro shape ⟨⟩
  refine Registry.knows_of_reference? fun name hname => ?_
  rw [Client.target] at h
  split at h
  · cases h
  · next found _ =>
    split at h
    · next reference hreference =>
      split at h
      · next hregistered =>
        cases h
        obtain rfl : reference = name := Option.some.inj (hreference.symm.trans hname)
        exact hregistered
      · cases h
    · next hnone =>
      cases h
      have hsome : (Target.decode shape).descriptor?.bind Descriptor.reference? = some name := hname
      rw [hnone] at hsome
      cases hsome

/-- A request that is ready to be sent expects registered types only. -/
lemma knows_of_prepare (h : c.prepare request = .ok p) : c.Knows p.target := by
  obtain ⟨_, _, _, -, -, htarget, -⟩ := prepare_eq_ok_iff.1 h
  cases hexpects : request.expects with
  | none =>
    rw [target_eq_none h hexpects]
    rintro shape ⟨⟩
  | some expression =>
    rw [hexpects, expectedTarget] at htarget
    obtain ⟨target, hok, hsome⟩ := Result.map_eq_ok.1 htarget
    rw [← hsome]
    exact knows_of_target hok

lemma headerValue_notUnregistered (text : String) : (headerValue text).NotUnregistered := by
  rw [headerValue]
  split <;> simp

lemma apply_notUnregistered (session : Session) (headers : Web.Headers) :
    (session.apply headers).NotUnregistered := by
  simp only [Session.apply]
  split <;> simp

lemma readAddress_notUnregistered (text : String) : (readAddress text).NotUnregistered := by
  rw [readAddress]
  split <;> simp

lemma ofUrl_notUnregistered (url : Web.Url) : (Dialect.ofUrl url).NotUnregistered := by
  rw [Dialect.ofUrl]
  split <;> simp

/-- Without a body, the headers are refused for their texts only. -/
lemma contents_notUnregistered (hbody : request.body = none) (dialect : Dialect) (url : Web.Url) :
    (c.contents request dialect url).NotUnregistered := by
  rw [contents, hbody]
  refine (headerValue_notUnregistered _).bind fun accept _ => ?_
  cases c.session with
  | none => exact Result.notUnregistered_ok _
  | some session =>
    exact (apply_notUnregistered session _).bind fun headers _ => Result.notUnregistered_ok _

/-- Asking for a task is not refused for a type that is not registered, if that of tasks is. -/
lemma prepare_taskRequest_notUnregistered (htask : c.registry.isRegistered "Task" = true)
    (href : String) : (c.prepare (taskRequest href)).NotUnregistered := by
  have htarget : c.expectedTarget (taskRequest href).expects =
      .ok (some (.decode (.named "Task"))) := by
    have hparse : Expression.parse "Task" = .ok (.decode (.named "Task")) := by decide
    simp [expectedTarget, taskRequest, CallRequest.get, target, hparse, Target.descriptor?,
      Descriptor.reference?, htask]
  refine (readAddress_notUnregistered _).bind fun url _ => ?_
  refine (ofUrl_notUnregistered url).bind fun dialect _ => ?_
  rw [htarget]
  refine (Result.notUnregistered_ok _).bind fun target _ => ?_
  refine (contents_notUnregistered rfl dialect _).bind fun contents _ => ?_
  exact Result.notUnregistered_ok _

/-! ## After a request is sent -/

/-- Reading the body of a reply does not fail for a type that is not registered. -/
lemma output_notUnregistered (hreg : c.registry.IsValid) {target : Option Target}
    (htarget : c.Knows target) (reply : Reply) :
    (c.output reply target).1.NotUnregistered := by
  unfold output
  split
  · -- a file can only fail to be kept
    simp only [DownloadStore.keep]
    cases c.downloads.fault with
    | none => exact Result.notUnregistered_ok _
    | some fault => exact Result.notUnregistered_fail fun _ h => nomatch h
  · next shape _ =>
    split
    · exact Result.notUnregistered_ok _
    · split
      · exact Result.notUnregistered_failValue .badBody
      · exact (Payload.decode_notUnregistered hreg (htarget shape rfl)).map _
  · exact Result.notUnregistered_ok _

/-- A task is missing in the reply, or the reply tells of no success. -/
lemma taskOf_notUnregistered (href : String) (envelope : Envelope) :
    (taskOf href envelope).NotUnregistered := by
  rw [taskOf]
  split
  · next r hchecked =>
    intro e he name hname
    cases he
    cases hsuccess : envelope.isSuccess with
    | true =>
      rw [Envelope.checked, hsuccess] at hchecked
      cases hchecked
    | false =>
      obtain ⟨r', hr', hstatus⟩ := Envelope.checked_eq_error hsuccess
      obtain rfl := Except.error.inj (hchecked.symm.trans hr')
      rw [hstatus] at hname
      cases hname
  · split
    · exact Result.notUnregistered_ok _
    · exact (Result.notUnregistered_failValue _).passing _

/-- The transport does not fail for a type that is not registered. -/
def SoundArrivals (arrivals : List Arrival) : Prop :=
  ∀ r, Arrival.failure r ∈ arrivals → ∀ name, r.failure ≠ .notRegistered name

lemma unanswered_notUnregistered {r : Report} (h : ∀ name, r.failure ≠ .notRegistered name)
    (p : Prepared) (left : List Arrival) :
    (unanswered p r left : Exchange Envelope).result.NotUnregistered := by
  intro e he
  cases he
  exact h

/-- A call fails after a reply because its body is not read, or because the task that it points at
is not to be had. -/
lemma result_reply_notUnregistered {reply : Reply} {left : List Arrival}
    (h : c.prepare request = .ok p) (hout : (c.output reply p.target).1.NotUnregistered)
    (hfetched : ∀ href, (c.call left (taskRequest href)).result.NotUnregistered) :
    (c.call (.reply reply :: left) request).result.NotUnregistered := by
  rw [call, h]
  simp only
  split
  · next r hr =>
    rintro e ⟨⟩
    exact ((hout.passing _).passing _) r hr
  · split
    · next href _ =>
      have htaskOf := (hfetched href).bind fun envelope _ => taskOf_notUnregistered href envelope
      split
      · next r hr =>
        rintro e ⟨⟩
        exact htaskOf.passing (.location href) r hr
      · exact Result.notUnregistered_ok _
    · exact Result.notUnregistered_ok _

/-- A call whose request is ready to be sent does not fail for a type that is not registered. -/
lemma result_notUnregistered (hreg : c.registry.IsValid)
    (htask : c.registry.isRegistered "Task" = true) (harrivals : SoundArrivals arrivals)
    (h : c.prepare request = .ok p) : (c.call arrivals request).result.NotUnregistered := by
  induction arrivals generalizing request p with
  | nil =>
    rw [call, h]
    refine unanswered_notUnregistered (fun name hname => ?_) p []
    cases hname
  | cons arrival left ih =>
    have hleft : SoundArrivals left := fun r hr => harrivals r (List.mem_cons_of_mem _ hr)
    cases arrival with
    | failure r =>
      rw [call, h]
      exact unanswered_notUnregistered (harrivals r List.mem_cons_self) p left
    | reply reply =>
      have hout := output_notUnregistered hreg (knows_of_prepare h) reply
      refine result_reply_notUnregistered h hout fun href => ?_
      -- asking for the task is refused for another reason, or it is a call again
      cases hprepare : c.prepare (taskRequest href) with
      | error r =>
        rw [call_of_refused hprepare]
        rintro e ⟨⟩
        exact prepare_taskRequest_notUnregistered htask href r hprepare
      | ok q => exact ih hleft hprepare

/-- A call that fails for a type that is not registered has sent no request at all, and taken
nothing of what arrives, if its registry is valid and has the type of tasks. -/
theorem sent_eq_nil_of_notRegistered (hreg : c.registry.IsValid)
    (htask : c.registry.isRegistered "Task" = true) (harrivals : SoundArrivals arrivals)
    {r : Report} {name : String} (h : (c.call arrivals request).result = .error r)
    (hname : r.failure = .notRegistered name) :
    (c.call arrivals request).sent = [] ∧ (c.call arrivals request).left = arrivals := by
  cases hprepare : c.prepare request with
  | ok p => exact absurd hname (result_notUnregistered hreg htask harrivals hprepare r h name)
  | error e =>
    rw [call_of_refused hprepare]
    exact ⟨rfl, rfl⟩

/-! ### A list of an unknown type -/

namespace Unknown

/-- A request that expects a list of a type that there is none of. -/
def listing : CallRequest := .get "https://h/cloudapi/orgs" "list[Missing]"

/-- What would arrive: nothing at first, and then an empty reply. -/
def script : List Arrival := [.failure ⟨.transport "send request" "timed out", []⟩, .reply {}]

/-- The call fails for the type, and what would arrive is left. -/
theorem call_listing :
    (builtin.call script listing).result =
        .error ⟨.notRegistered "Missing", [.responseType "list[Missing]"]⟩ ∧
      SoundArrivals script ∧
      (builtin.call script listing).sent = [] ∧
      (builtin.call script listing).left = script := by
  have hresult : (builtin.call script listing).result =
      .error ⟨.notRegistered "Missing", [.responseType "list[Missing]"]⟩ := by
    exact Result.report?_eq_some_iff.1 (by decide +kernel)
  have harrivals : SoundArrivals script := by
    intro r hr name hname
    simp only [script, List.mem_cons, Arrival.failure.injEq, reduceCtorEq, List.not_mem_nil,
      or_false] at hr
    subst hr
    cases hname
  have htask : builtin.registry.isRegistered "Task" = true := by decide
  obtain ⟨hsent, hleft⟩ :=
    sent_eq_nil_of_notRegistered Builtin.isValid_registry htask harrivals hresult rfl
  exact ⟨hresult, harrivals, hsent, hleft⟩

end Unknown

/-- Where the type of tasks is not registered, a call can fail for it after a request was sent. -/
example :
    let exchange := call { registry := {} }
      [.reply { status := 202, headers := [("location", "https://h/cloudapi/task/1")] }]
      { method := .post, address := "https://h/cloudapi/orgs" }
    exchange.result.report?.map Report.failure = some (.notRegistered "Task") ∧
      exchange.sent.length = 1 := by
  decide +kernel

end Client

end CloudDirector
