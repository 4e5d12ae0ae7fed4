import CloudDirector.Proofs.Client.Replies
import CloudDirector.Proofs.Navigation.Link

/-!
# Links and tasks of bodies

The links of a reply and the task that it started are in its body.  If a resource is expected, they
are taken from the record that the body is decoded as; if nothing is expected, from the JSON as it
is.  Each of the two ways is related to the entries of the body, so that both find the same: a
record field by field, through the wire keys of its schema, and JSON member by member.
-/

namespace CloudDirector

/-- The items of a member that is an array. -/
def Json.entries (j : Json) (key : String) : List Json :=
  ((j.member? key).bind Json.items?).getD []

/-- The first of the tasks that are running for the resource of a body. -/
def Json.firstTask? (body : Json) : Option Json :=
  (body.member? "tasks").bind fun tasks => (tasks.entries "task").head?

lemma Json.DistinctKeys.entries {j : Json} (h : j.DistinctKeys) {key : String} :
    ∀ k ∈ j.entries key, k.DistinctKeys := by
  intro k hk
  rw [Json.entries] at hk
  cases hitems : (j.member? key).bind Json.items? with
  | none =>
    rw [hitems] at hk
    cases hk
  | some items =>
    rw [hitems, Option.getD_some] at hk
    obtain ⟨array, harray, hitems⟩ := Option.bind_eq_some_iff.1 hitems
    exact (h.member harray).item hitems hk

/-! ## Fields of records that are not null -/

namespace Payload

variable {reg : Registry} {typeName : String} {members : List (String × Json)}
  {specs : List (String × FieldSpec)} {fields : List (String × Value)} {field : String × FieldSpec}
  {element : Descriptor}

/-- A value is what an item of an array is decoded as; null stands for null. -/
def IsItem (reg : Registry) (element : Descriptor) (j : Json) (v : Value) : Prop :=
  ∃ found, decode reg j element = .ok found ∧ found.getD .null = v

/-- A field that may not be null is what its member is decoded as. -/
lemma decode_of_walk
    (hwalk : gather (fun field => decodeMember reg typeName field members) specs = .ok fields)
    (hspecs : (Members.keys specs).Nodup) (hfield : field ∈ specs)
    (hnullable : field.2.nullable = false) :
    (Members.get? members field.2.wireKey).elim (.ok none) (fun j => decode reg j field.2.shape) =
      .ok (Members.get? fields field.1) := by
  obtain ⟨found, hfound, hget⟩ := get?_of_walk hwalk hspecs hfield
  rw [hget]
  rcases decodeMember_cases hfound with ⟨hnone, rfl⟩ | ⟨hnull, rfl⟩ | ⟨j, v, hj, -, hv, rfl⟩
  · rw [hnone]
    rfl
  · rw [hnull, hnullable]
    exact decode_null
  · rw [hj]
    exact hv

lemma items_of_decode {j : Json} {found : Option Value}
    (h : decode reg j (.list element) = .ok found) :
    List.Forall₂ (IsItem reg element) (j.items?.getD []) ((found.bind Value.items?).getD []) := by
  cases found with
  | none =>
    obtain rfl := Json.eq_null_of_isNull (isNull_of_decode_eq_none h)
    exact .nil
  | some v =>
    cases decoded_of_decode h with
    | list walk => exact decodeItems_eq_ok_iff.1 walk
    | record hexpects => cases hexpects

/-- The items of a field that is a list are those of its member. -/
lemma items_of_walk
    (hwalk : gather (fun field => decodeMember reg typeName field members) specs = .ok fields)
    (hspecs : (Members.keys specs).Nodup) (hfield : field ∈ specs)
    (hnullable : field.2.nullable = false) (hshape : field.2.shape = .list element) :
    List.Forall₂ (IsItem reg element) ((Json.object members).entries field.2.wireKey)
      ((Record.items? ⟨typeName, fields⟩ field.1).getD []) := by
  have hdecode := decode_of_walk hwalk hspecs hfield hnullable
  rw [hshape] at hdecode
  rw [Record.items?, Record.get?, Json.entries, Json.member?, Json.members?, Option.bind_some]
  cases hget : Members.get? members field.2.wireKey with
  | none =>
    rw [hget] at hdecode
    rw [← Except.ok.inj hdecode]
    exact .nil
  | some j =>
    rw [hget] at hdecode
    exact items_of_decode hdecode

end Payload

/-! ## Links -/

namespace Client

variable {c : Client} {host : String} {members : List (String × Json)}
  {specs : List (String × FieldSpec)} {fields : List (String × Value)}

/-- Entries that are decoded as links, and the values that they are decoded as, become the links
that the entries spell. -/
lemma forall₂_spells {items : List Json} {values : List Value}
    (hdistinct : ∀ j ∈ items, j.DistinctKeys)
    (h : List.Forall₂ (Payload.IsItem Builtin.registry (.named "Link")) items values) :
    List.Forall₂ Link.Spells (items.filter Json.leads) (items.filterMap Link.ofJson?) ∧
      List.Forall₂ Link.Spells (items.filter Json.leads)
        (values.filterMap (Link.ofValue? Builtin.registry)) := by
  have hcomes : List.Forall₂ (fun j v => Link.ComesOf j (Link.ofJson? j) ∧
      Link.ComesOf j (Link.ofValue? Builtin.registry v)) items values := by
    refine ((List.forall₂_and_left _ _).2 ⟨hdistinct, h⟩).imp ?_
    rintro j _ ⟨hj, found, hfound, rfl⟩
    exact Link.comesOf_of_decode hj hfound
  obtain ⟨hraw, hdecoded⟩ := (List.forall₂_and_left _ _).1 hcomes
  exact ⟨forall₂_filter_filterMap hraw, forall₂_filter_filterMap_of_forall₂ hdecoded⟩

lemma bodyLinks_record (c : Client) (typeName : String) (fields : List (String × Value)) :
    c.bodyLinks (.decoded (.record typeName fields)) =
      ((Record.items? ⟨typeName, fields⟩ "link").getD []).filterMap (Link.ofValue? c.registry) := by
  rw [bodyLinks, List.filterMap_filter, List.filterMap_filterMap]
  rfl

/-! ## Tasks -/

lemma firstTask?_record (typeName : String) (fields : List (String × Value)) :
    firstTask? (.record typeName fields) =
      (((Record.items? ⟨typeName, fields⟩ "task").getD []).head?.bind Value.record?).bind
        Task.ofRecord? := by
  rw [firstTask?]
  cases Record.items? ⟨typeName, fields⟩ "task" <;> rfl

lemma firstRawTask?_object (members : List (String × Json)) :
    firstRawTask? (.object members) = ((Json.object members).entries "task").head? := by
  rw [firstRawTask?, Json.entries]
  cases ((Json.object members).member? "task").bind Json.items? <;> rfl

/-- An entry that names no other type gives the task of what it is decoded as. -/
lemma rawTask_of_isItem (hreg : c.registry = Builtin.registry) {j : Json} {v : Value}
    (hitem : Payload.IsItem Builtin.registry (.named "Task") j v)
    (htype : ∀ text, j.text? discriminatorKey = some text → text = "Task") :
    (c.rawTask j).1 = v.record?.bind Task.ofRecord? := by
  obtain ⟨found, hfound, rfl⟩ := hitem
  have hlookup := Builtin.lookup?_schema Builtin.task (by simp [Builtin.models])
  -- JSON is read as any kind of task, a declared field as a plain one
  have hdecode : Payload.decode c.registry j (.polymorphic "Task") = .ok found := by
    have hconcrete : Payload.concreteSchema Builtin.registry j (Builtin.task.schema Builtin.models) =
        .ok (Builtin.task.schema Builtin.models) :=
      Payload.concreteSchema_of_discriminatorValue htype
    rw [hreg, ← hfound]
    exact Payload.decode_polymorphic hlookup rfl hconcrete
  rw [rawTask]
  simp only [hdecode]
  cases found <;> rfl

/-- The task of what an entry is decoded as can be asked for where the entry says. -/
lemma href_of_isItem {j : Json} {v : Value}
    (hitem : Payload.IsItem Builtin.registry (.named "Task") j v) :
    (v.record?.bind Task.ofRecord?).map Task.href = j.text? "href" := by
  obtain ⟨found, hfound, rfl⟩ := hitem
  cases found with
  | none =>
    obtain rfl := Json.eq_null_of_isNull (Payload.isNull_of_decode_eq_none hfound)
    rfl
  | some v =>
    have hmem : Builtin.task ∈ Builtin.models.models := by simp [Builtin.models]
    obtain ⟨members, specs, fields, hspecs, hwalk, rfl, rfl⟩ :=
      Builtin.exists_record_of_decode Builtin.task hmem rfl hfound rfl
    obtain ⟨href, hhref, hget⟩ := Payload.get?_of_walk hwalk
      (Registry.nodup_keys_resolvedFields hspecs) (Builtin.mem_fields_task hspecs)
    obtain ⟨rfl, -⟩ := Link.text_of_decodeMember rfl rfl hhref
    have hfield : Members.get? fields "href" =
        ((Json.object members).text? "href").map Value.string :=
      hget.trans (Option.map_map ..)
    simp only [Option.getD_some, Value.record?, Option.bind_some, Task.ofRecord?, Record.string?,
      Record.get?, hfield]
    cases (Json.object members).text? "href" <;> rfl

/-- The tasks that are running for a resource give the same first task decoded and as JSON, the one
that the first entry tells of. -/
lemma firstTask?_of_decode (hreg : c.registry = Builtin.registry) {tasks : Json}
    {found : Option Value}
    (h : Payload.decode Builtin.registry tasks (.named "TasksInProgress") = .ok found)
    (htype : ∀ entry text, (tasks.entries "task").head? = some entry →
      entry.text? discriminatorKey = some text → text = "Task") :
    found.bind firstTask? = ((firstRawTask? tasks).bind fun j => (c.rawTask j).1) ∧
      (found.bind firstTask?).map Task.href =
        (tasks.entries "task").head?.bind fun entry => entry.text? "href" := by
  cases found with
  | none =>
    obtain rfl := Json.eq_null_of_isNull (Payload.isNull_of_decode_eq_none h)
    exact ⟨rfl, rfl⟩
  | some v =>
    have hmem : Builtin.tasksInProgress ∈ Builtin.models.models := by simp [Builtin.models]
    obtain ⟨members, specs, fields, hspecs, hwalk, rfl, rfl⟩ :=
      Builtin.exists_record_of_decode Builtin.tasksInProgress hmem rfl h rfl
    have hfield := Builtin.mem_fields_tasksInProgress hspecs
    have hitems : List.Forall₂ (Payload.IsItem Builtin.registry (.named "Task"))
        ((Json.object members).entries "task") ((Record.items? ⟨_, fields⟩ "task").getD []) :=
      Payload.items_of_walk hwalk (Registry.nodup_keys_resolvedFields hspecs) hfield rfl rfl
    rw [Option.bind_some, firstTask?_record, firstRawTask?_object]
    -- the first entry and what it is decoded as are the heads of lists that match
    rcases head?_of_forall₂ hitems with ⟨hnone, hnone'⟩ | ⟨j, v, hj, hv, hitem⟩
    · rw [hnone, hnone']
      exact ⟨rfl, rfl⟩
    · rw [hj, hv, Option.bind_some, Option.bind_some, Option.bind_some]
      exact ⟨(rawTask_of_isItem hreg hitem (htype j · hj)).symm, href_of_isItem hitem⟩

/-! ## Resources -/

/-- A body that is decoded as a resource is an object that gives the fields of one. -/
lemma exists_host_of_decode {typeName : String} {b : Json} {v : Value}
    (htype : typeName ∈ Builtin.hosts)
    (h : Payload.decode Builtin.registry b (.named typeName) = .ok (some v)) :
    ∃ host ∈ Builtin.hosts, ∃ members specs fields,
      Builtin.registry.resolvedFields host = .ok specs ∧
      gather (fun field => Payload.decodeMember Builtin.registry host field members) specs =
        .ok fields ∧
      b = .object members ∧ v = .record host fields := by
  simp only [Builtin.hosts, List.mem_cons, List.not_mem_nil, or_false] at htype
  rcases htype with rfl | rfl | rfl
  · have hmem : Builtin.entity ∈ Builtin.models.models := by simp [Builtin.models]
    exact ⟨_, by decide, Builtin.exists_record_of_decode Builtin.entity hmem rfl h rfl⟩
  · have hlookup := Builtin.lookup?_schema Builtin.org (by simp [Builtin.models])
    obtain ⟨t, members, specs, fields, ht, h⟩ := Payload.exists_record_of_decode hlookup h
    -- only an organization may be of another type than the one that is named
    rcases Payload.concreteSchema_cases ht with rfl | ⟨value, hvalue⟩
    · exact ⟨"Org", by decide, members, specs, fields, h⟩
    · obtain ⟨concrete, hget, hdescendant, hlookup⟩ := Registry.resolveDiscriminator_eq_ok hvalue
      obtain rfl := Builtin.typeName_of_lookup? hlookup
      have hmem := Members.mem_of_get?_eq_some hget
      have hhost := (Builtin.discriminators_cases.2 _ hmem).2 hdescendant
      exact ⟨_, hhost, members, specs, fields, h⟩
  · have hmem : Builtin.adminOrg ∈ Builtin.models.models := by simp [Builtin.models]
    exact ⟨_, by decide, Builtin.exists_record_of_decode Builtin.adminOrg hmem rfl h rfl⟩

lemma isRawTask_eq_false (hreg : c.registry = Builtin.registry) {b : Json}
    (h : b.text? discriminatorKey ≠ some "Task") : c.isRawTask b = false := by
  rw [isRawTask]
  split
  · next value hvalue =>
    split
    · next t ht =>
      rw [hreg] at ht
      obtain ⟨concrete, hget, hdescendant, -⟩ := Registry.resolveDiscriminator_eq_ok ht
      have hmem := Members.mem_of_get?_eq_some hget
      obtain rfl : value = "Task" := (Builtin.discriminators_cases.2 _ hmem).1 hdescendant
      exact absurd hvalue h
    · rfl
  · rfl

section Host

variable (hreg : c.registry = Builtin.registry) (hhost : host ∈ Builtin.hosts)
  (hspecs : Builtin.registry.resolvedFields host = .ok specs)
  (hwalk : gather (fun field => Payload.decodeMember Builtin.registry host field members) specs =
    .ok fields)

include hreg hhost hspecs hwalk

/-- The links of a resource, decoded and as JSON, are those that its entries spell. -/
lemma links_of_walk (hdistinct : (Json.object members).DistinctKeys) :
    List.Forall₂ Link.Spells (((Json.object members).entries "link").filter Json.leads)
        (c.bodyLinks (.decoded (.record host fields))) ∧
      List.Forall₂ Link.Spells (((Json.object members).entries "link").filter Json.leads)
        (c.bodyLinks (.raw (.object members))) := by
  have hfield := (Builtin.mem_fields_host hhost hspecs).1
  have hitems : List.Forall₂ (Payload.IsItem Builtin.registry (.named "Link"))
      ((Json.object members).entries "link") ((Record.items? ⟨host, fields⟩ "link").getD []) :=
    Payload.items_of_walk hwalk (Registry.nodup_keys_resolvedFields hspecs) hfield rfl rfl
  obtain ⟨hraw, hdecoded⟩ := forall₂_spells hdistinct.entries hitems
  rw [bodyLinks_record, hreg]
  exact ⟨hdecoded, hraw⟩

/-- The task of a resource is the same decoded and as JSON: the one that the first entry of the
tasks that are running tells of. -/
lemma task_of_walk (htype : (Json.object members).text? discriminatorKey ≠ some "Task")
    (hfirst : ∀ entry text, (Json.object members).firstTask? = some entry →
      entry.text? discriminatorKey = some text → text = "Task") :
    (c.bodyTask (.decoded (.record host fields))).1 = (c.bodyTask (.raw (.object members))).1 ∧
      (c.bodyTask (.decoded (.record host fields))).1.map Task.href =
        (Json.object members).firstTask?.bind fun entry => entry.text? "href" := by
  obtain ⟨-, hnotTask, -⟩ := Builtin.hosts_cases host hhost
  have hfield := (Builtin.mem_fields_host hhost hspecs).2
  have hdecode : (Members.get? members "tasks").elim (.ok none)
      (fun j => Payload.decode Builtin.registry j (.named "TasksInProgress")) =
        .ok (Members.get? fields "tasks") :=
    Payload.decode_of_walk hwalk (Registry.nodup_keys_resolvedFields hspecs) hfield rfl
  have hdecoded : (c.bodyTask (.decoded (.record host fields))).1 =
      (Members.get? fields "tasks").bind firstTask? := by
    rw [bodyTask, hreg, hnotTask]
    rfl
  have hraw : (c.bodyTask (.raw (.object members))).1 =
      ((Members.get? members "tasks").bind firstRawTask?).bind fun j => (c.rawTask j).1 := by
    rw [bodyTask, isRawTask_eq_false hreg htype]
    simp only [Json.member?, Json.members?, Option.bind_some]
    cases (Members.get? members "tasks").bind firstRawTask? <;> rfl
  have hentry : (Json.object members).firstTask? =
      (Members.get? members "tasks").bind fun tasks => (tasks.entries "task").head? := rfl
  rw [hdecoded, hraw, hentry]
  rw [hentry] at hfirst
  cases hget : Members.get? members "tasks" with
  | none =>
    rw [hget] at hdecode
    rw [← Except.ok.inj hdecode]
    exact ⟨rfl, rfl⟩
  | some tasks =>
    rw [hget] at hdecode hfirst
    exact firstTask?_of_decode hreg hdecode hfirst

end Host

/-! ## Calls that expect a resource or nothing -/

lemma expectedTarget_host (hreg : c.registry = Builtin.registry) (hhost : host ∈ Builtin.hosts) :
    c.expectedTarget (some host) = .ok (some (.decode (.named host))) := by
  obtain ⟨hregistered, -, -⟩ := Builtin.hosts_cases host hhost
  rw [expectedTarget, target, Builtin.parse_host host hhost]
  simp only [Target.descriptor?, Option.bind_some, Descriptor.reference?, hreg, hregistered,
    if_true]
  rfl

/-- What is expected changes nothing of what is sent. -/
lemma prepare_expecting {request : CallRequest} {p : Prepared} {expects : Option String}
    {target : Option Target} (h : c.prepare { request with expects := none } = .ok p)
    (htarget : c.expectedTarget expects = .ok target) :
    c.prepare { request with expects } = .ok { p with target } := by
  obtain ⟨url, headers, body, hurl, hdialect, -, hcontents, hrequest⟩ := prepare_eq_ok_iff.1 h
  exact prepare_eq_ok_iff.2 ⟨url, headers, body, hurl, hdialect, htarget, hcontents, hrequest⟩

/-- In the first dialect, a body that can be decoded as a resource leads to the same task and to the
same links whether the resource is expected or nothing is.  The task is the first of those that are
running for the resource, if that says where it can be asked for again.  The links are those that
the entries of the body spell; entries that do not say where they lead, and null, are left out. -/
theorem call_expecting_resource (hreg : c.registry = Builtin.registry) {typeName : String}
    (hresource : typeName ∈ ["Entity", "Org", "AdminOrg"]) {request : CallRequest} {p : Prepared}
    (hprepare : c.prepare { request with expects := none } = .ok p) (hdialect : p.dialect = .api)
    {reply : Reply} (hsuccess : reply.isSuccess = true) {b : Json} (hjson : reply.json? = some b)
    {v : Value} (hdecode : Payload.decode Builtin.registry b (.named typeName) = .ok (some v))
    (htype : b.text? discriminatorKey ≠ some "Task")
    (hfirst : ∀ entry text, b.firstTask? = some entry →
      entry.text? discriminatorKey = some text → text = "Task") (left : List Arrival) :
    ∃ decoded raw,
      (c.call (.reply reply :: left) { request with expects := some typeName }).result =
        .ok decoded ∧
      (c.call (.reply reply :: left) { request with expects := none }).result = .ok raw ∧
      decoded.output = .decoded v ∧ raw.output = .raw b ∧
      decoded.task = raw.task ∧
      (decoded.task.map Task.href = b.firstTask?.bind fun entry => entry.text? "href") ∧
      List.Forall₂ Link.Alike decoded.links raw.links ∧
      List.Forall₂ Link.Spells ((b.entries "link").filter Json.leads) decoded.links ∧
      List.Forall₂ Link.Spells ((b.entries "link").filter Json.leads) raw.links := by
  obtain ⟨text, -, htext⟩ := Option.bind_eq_some_iff.1 hjson
  have hdistinct := Json.distinctKeys_of_ofString? htext
  have hnonnull := Payload.json_nonnull_of_decode hdecode
  obtain ⟨host, hhost, members, specs, fields, hspecs, hwalk, rfl, rfl⟩ :=
    exists_host_of_decode hresource hdecode
  have hfilled := Reply.isBodyEmpty_of_json? hjson
  -- what the body becomes on the two ways
  have hdecoded : (c.output reply (some (.decode (.named typeName)))).1 =
      .ok (.decoded (.record host fields)) := by
    unfold output
    rw [hsuccess, hreg, hfilled, hjson]
    simp only [hdecode]
    rfl
  have hraw : (c.output reply p.target).1 = .ok (.raw (.object members)) := by
    rw [output_eq_rawOutput (Or.inr (target_eq_none hprepare rfl)),
      (Reply.becomesRaw_rawOutput reply).json _ hjson hnonnull]
  have hnone : taskAddress? p.dialect reply = none := by
    rw [hdialect]
    rfl
  obtain ⟨hdecodedResult, -⟩ := call_of_read left
    (prepare_expecting hprepare (expectedTarget_host hreg hresource)) hdecoded hnone
  obtain ⟨hrawResult, -⟩ := call_of_read left hprepare hraw hnone
  rw [hdialect] at hdecodedResult hrawResult
  obtain ⟨hdecodedLinks, hrawLinks⟩ := links_of_walk hreg hhost hspecs hwalk hdistinct
  obtain ⟨htask, hhref⟩ := task_of_walk hreg hhost hspecs hwalk htype hfirst
  have halike := forall₂_of_common hdecodedLinks hrawLinks fun _ _ _ hl hm => hl.alike hm
  exact ⟨_, _, hdecodedResult, hrawResult, rfl, rfl, htask, hhref, halike, hdecodedLinks, hrawLinks⟩

/-! ### An organization with a task -/

namespace Acme

/-- An organization as administrators see it.  Of its links one is null and one leads nowhere. -/
def body : Json := .object [
  ("_type", .string "AdminOrg"),
  ("link", .array [.null, .object [], .object [("href", .string "/vdc"), ("rel", .string "down")]]),
  ("tasks", .object [("task", .array [.object [("href", .string "/task")]])])]

/-- A reply with that body. -/
def reply : Reply := { body := body.render.toUTF8.toList }

/-- A request of the first dialect. -/
def request : CallRequest := { method := .get, address := "https://h/api/org" }

theorem call_expecting_resource_acme : ∃ decoded raw,
    (builtin.call [.reply reply] { request with expects := some "Org" }).result = .ok decoded ∧
    (builtin.call [.reply reply] { request with expects := none }).result = .ok raw ∧
    decoded.task = raw.task ∧ decoded.task.map Task.href = some "/task" ∧
    List.Forall₂ Link.Alike decoded.links raw.links ∧ decoded.links.length = 1 := by
  have hprepared : (builtin.prepare { request with expects := none }).toOption.any
      (fun p => decide (p.dialect = .api)) = true := by
    decide +kernel
  have hbody : reply.json?.any (fun b =>
      (Payload.decode Builtin.registry b (.named "Org")).toOption.any Option.isSome &&
        decide (b.text? discriminatorKey ≠ some "Task" ∧
          (b.firstTask?.bind fun entry => entry.text? discriminatorKey) = none ∧
          (b.firstTask?.bind fun entry => entry.text? "href") = some "/task" ∧
          ((b.entries "link").filter Json.leads).length = 1)) = true := by
    decide +kernel
  obtain ⟨p, hp, hdialect⟩ := Result.exists_of_any_toOption hprepared
  obtain ⟨b, hb, hchecked⟩ := (Option.any_eq_true _ _).1 hbody
  rw [Bool.and_eq_true, decide_eq_true_eq] at hchecked
  obtain ⟨hdecodes, htype, hnone, hhref, hlength⟩ := hchecked
  obtain ⟨found, hdecode, hfound⟩ := Result.exists_of_any_toOption hdecodes
  obtain ⟨v, rfl⟩ := Option.isSome_iff_exists.1 hfound
  have hfirst : ∀ entry text, b.firstTask? = some entry →
      entry.text? discriminatorKey = some text → text = "Task" := by
    intro entry text hentry htext
    rw [hentry, Option.bind_some, htext] at hnone
    cases hnone
  have hreg : builtin.registry = Builtin.registry := rfl
  obtain ⟨decoded, raw, hdecoded, hraw, -, -, htask, htaskHref, hlinks, hspelled, -⟩ :=
    call_expecting_resource hreg (by decide) hp (of_decide_eq_true hdialect) (by decide) hb hdecode
      htype hfirst []
  refine ⟨decoded, raw, hdecoded, hraw, htask, htaskHref.trans hhref, hlinks, ?_⟩
  rw [← hspelled.length_eq, hlength]

end Acme

end Client

end CloudDirector
