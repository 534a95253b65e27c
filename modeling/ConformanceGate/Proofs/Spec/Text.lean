import ConformanceGate.Proofs.Spec.Address
import ConformanceGate.Proofs.Spec.Codec

/-!
# The text of a spec

A spec that was read is read again from its own text (`Spec.ofText_text_of_ofText`), if the numbers
in its options are whole. So are the usual specs. A usable spec has a report directory and names an
address.
-/

namespace ConformanceGate

theorem Decoder.ofText_eq_ok {α : Type} {d : Decoder α} {text : String} {a : α}
    (h : d.ofText text = .ok a) : ∃ tree, d .json tree = .ok a := by
  obtain ⟨value, decoded, rest⟩ := Except.bind_eq_ok.mp h
  obtain ⟨_, -, last⟩ := Except.bind_eq_ok.mp rest
  cases last
  exact ⟨_, decoded⟩

theorem Decoder.ofText_of_spells {α : Type} {d : Decoder α} {text : String} {v : Json} {a : α}
    (spells : v.Spells text) (decoded : d .json (.ofJson v) = .ok a) : d.ofText text = .ok a := by
  obtain ⟨after, scanned, ended⟩ := Json.scan_of_spells spells
  simp [Decoder.ofText, scanned, decoded, ended, bind, Except.bind, pure, Except.pure]

namespace Spec

/-- What a spec's decoder gives. -/
def Fits : Spec → Prop
  | .client spec => spec.Fits
  | .server spec => spec.Fits

def options : Spec → List Json
  | .client spec => spec.servers.flatMap (·.options.toList) ++ spec.options.toList
  | .server spec => spec.options.toList

def Whole (spec : Spec) : Prop := ∀ v ∈ spec.options, v.Whole

/-- A spec that was read is of the kind asked for, and can be written. -/
theorem decode_yields {mode : Mode} {w : Written} {spec : Spec}
    (h : decode mode .json w = .ok spec) :
    spec.mode = mode ∧ spec.Fits ∧ spec.toJson.Within Written.depthLimit := by
  cases mode <;> obtain ⟨found, read, rfl⟩ := Except.map_eq_ok.mp h
  · exact ⟨rfl, ClientSpec.decode_yields (by simp [Terms.json, Written.depthLimit]) read⟩
  · exact ⟨rfl, ServerSpec.decode_yields (by simp [Terms.json, Written.depthLimit]) read⟩

/-- A spec is read as it was written. -/
theorem decode_restores {spec : Spec} (fits : spec.Fits)
    (within : spec.toJson.Within Written.depthLimit) :
    decode spec.mode .json (.ofJson spec.toJson) = .ok spec := by
  cases spec with
  | client spec => exact congrArg (Except.map Spec.client) (ClientSpec.decode_restores fits within)
  | server spec => exact congrArg (Except.map Spec.server) (ServerSpec.decode_restores fits within)

theorem whole_toJson {spec : Spec} (whole : spec.Whole) : spec.toJson.Whole := by
  cases spec with
  | client spec =>
    have servers : (Json.array (spec.servers.map Target.toJson)).Whole := by
      refine Json.whole_array_iff.mpr fun item hitem => ?_
      obtain ⟨target, htarget, rfl⟩ := List.mem_map.mp hitem
      refine Target.whole_toJson fun v hv => whole v ?_
      exact List.mem_append_left _ (List.mem_flatMap.mpr ⟨target, htarget, Option.mem_toList.mpr hv⟩)
    refine Json.whole_object_iff.mpr (forall_members_iff.mpr
      ⟨List.forall_mem_append.mpr ⟨?_, spec.selection.whole_toMembers⟩, fun v hv => ?_⟩)
    · exact List.forall_mem_cons.mpr ⟨by simp [Json.Whole], by simpa using servers⟩
    · exact whole v (List.mem_append_right _ (Option.mem_toList.mpr hv))
  | server spec =>
    refine Json.whole_object_iff.mpr (forall_members_iff.mpr
      ⟨List.forall_mem_append.mpr ⟨?_, spec.selection.whole_toMembers⟩, fun v hv => ?_⟩)
    · simp [Json.Whole]
    · exact whole v (Option.mem_toList.mpr hv)

/-! ## Usable specs -/

/-- A spec passes its check exactly if it has a directory and targets, all of them with addresses.
-/
theorem validate_eq_ok_iff {spec : Spec} :
    spec.validate = .ok () ↔ Text.blank spec.outdir = false ∧ spec.urls ≠ [] ∧
      ∀ url ∈ spec.urls, ∃ address, socketAddress url = .ok address := by
  have each (urls : List String) : (do for url in urls do let _ ← socketAddress url) =
      (Except.ok () : Except Flaw Unit) ↔
        ∀ url ∈ urls, ∃ address, socketAddress url = .ok address := by
    induction urls with
    | nil => simp [bind, Except.bind, pure, Except.pure]
    | cons url rest ih =>
      cases read : socketAddress url <;> simp_all [bind, Except.bind, pure, Except.pure]
  unfold validate
  by_cases blank : Text.blank spec.outdir
  · simp [blank, bind, Except.bind, throw, throwThe, MonadExceptOf.throw]
  · by_cases none : spec.urls = []
    · simp [blank, none, bind, Except.bind, throw, throwThe, MonadExceptOf.throw]
    · have follows := each spec.urls
      simp_all

/-- A text is accepted exactly if it is decoded and passes the check. -/
theorem ofText_eq_ok_iff {mode : Mode} {path text : String} {spec : Spec} :
    ofText mode path text = .ok spec ↔
      (decode mode).ofText text = .ok spec ∧ spec.validate = .ok () := by
  simp only [ofText, bind, Except.bind_eq_ok, Except.mapError_eq_ok, pure, Except.pure,
    Except.ok.injEq]
  constructor
  · rintro ⟨found, read, _, valid, rfl⟩
    exact ⟨read, valid⟩
  · rintro ⟨read, valid⟩
    exact ⟨spec, read, (), valid, rfl⟩

/-- A spec that passes its check has an address to listen at. -/
theorem listenAddress_of_validate {spec : Spec} (valid : spec.validate = .ok ()) :
    ∃ address, spec.listenAddress = .ok address := by
  obtain ⟨-, some, each⟩ := validate_eq_ok_iff.mp valid
  cases spec with
  | client spec =>
    obtain ⟨outdir, servers, selection, options⟩ := spec
    cases servers with
    | nil => exact absurd rfl some
    | cons target rest => exact each target.url (by simp [urls])
  | server spec => exact each spec.url (by simp [urls])

/-- The text of a spec is read as the spec. -/
theorem ofText_text {spec : Spec} (fits : spec.Fits) (whole : spec.Whole)
    (within : spec.toJson.Within Written.depthLimit) (valid : spec.validate = .ok ())
    (path : String) : ofText spec.mode path spec.text = .ok spec := by
  have spells := Json.spells_pretty (whole_toJson whole) Json.blanks_lineBreak
  have read := Decoder.ofText_of_spells spells (decode_restores fits within)
  exact ofText_eq_ok_iff.mpr ⟨read, valid⟩

/-- What was read is fit to be written and can be used. -/
theorem fits_of_ofText {mode : Mode} {path text : String} {spec : Spec}
    (read : ofText mode path text = .ok spec) :
    spec.mode = mode ∧ spec.Fits ∧ spec.toJson.Within Written.depthLimit ∧
      spec.validate = .ok () := by
  obtain ⟨found, valid⟩ := ofText_eq_ok_iff.mp read
  obtain ⟨tree, decoded⟩ := Decoder.ofText_eq_ok found
  obtain ⟨same, fits, within⟩ := decode_yields decoded
  exact ⟨same, fits, within, valid⟩

/-- A spec that was read is read again from its own text. -/
theorem ofText_text_of_ofText {mode : Mode} {path text : String} {spec : Spec}
    (read : ofText mode path text = .ok spec) (whole : spec.Whole) (path' : String) :
    ofText spec.mode path' spec.text = .ok spec := by
  obtain ⟨-, fits, within, valid⟩ := fits_of_ofText read
  exact ofText_text fits whole within valid path'

/-! ## The usual specs -/

theorem validate_usualClient (agent : String) (port : UInt16) {outdir : String}
    (named : Text.blank outdir = false) : (usualClient agent port outdir).validate = .ok () := by
  refine validate_eq_ok_iff.mpr ⟨named, by simp [usualClient, urls], fun url hurl => ?_⟩
  obtain rfl : url = localUrl port := by simpa [usualClient, urls] using hurl
  exact ⟨_, socketAddress_localUrl port⟩

theorem validate_usualServer (port : UInt16) {outdir : String}
    (named : Text.blank outdir = false) : (usualServer port outdir).validate = .ok () := by
  refine validate_eq_ok_iff.mpr ⟨named, by simp [usualServer, urls], fun url hurl => ?_⟩
  obtain rfl : url = localUrl port := by simpa [usualServer, urls] using hurl
  exact ⟨_, socketAddress_localUrl port⟩

/-- The usual spec for one server under test is read from its text, whatever the server is called.
-/
theorem ofText_usualClient (agent : String) (port : UInt16) {outdir : String}
    (named : Text.blank outdir = false) (path : String) :
    ofText .client path (usualClient agent port outdir).text =
      .ok (usualClient agent port outdir) := by
  have fits : (usualClient agent port outdir).Fits :=
    ⟨by simp [Target.Fits, OptionsFit], Keyed.increasing_nil, by simp [OptionsFit]⟩
  have whole : (usualClient agent port outdir).Whole := by
    simp [Whole, options, usualClient]
  have within : (usualClient agent port outdir).toJson.Within Written.depthLimit := by
    simp [usualClient, toJson, ClientSpec.toJson, Target.toJson, Selection.toMembers,
      Selection.all, Written.depthLimit, Json.Within, Json.WithinItems, Json.WithinMembers]
  exact ofText_text fits whole within (validate_usualClient agent port named) path

/-- The usual spec for clients under test is read from its text. -/
theorem ofText_usualServer (port : UInt16) {outdir : String} (named : Text.blank outdir = false)
    (path : String) :
    ofText .server path (usualServer port outdir).text = .ok (usualServer port outdir) := by
  have fits : (usualServer port outdir).Fits := ⟨Keyed.increasing_nil, by simp [OptionsFit]⟩
  have whole : (usualServer port outdir).Whole := by simp [Whole, options, usualServer]
  have within : (usualServer port outdir).toJson.Within Written.depthLimit := by
    simp [usualServer, toJson, ServerSpec.toJson, Selection.toMembers, Selection.all,
      Written.depthLimit, Json.Within, Json.WithinItems, Json.WithinMembers]
  exact ofText_text fits whole within (validate_usualServer port named) path

end Spec
end ConformanceGate
