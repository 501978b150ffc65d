import QueryCompiler.Proofs.Module

/-!
# The two policies side by side

A file is read under the lenient policy, which reports calls outside the vocabulary and goes on, or
under the strict one, which ends at the first of them. This module compares the two runs of one
file.

## The architecture

* **`replay`** says what the reports of a lenient run are worth under the strict policy: they are
  kept up to the first call outside the vocabulary, which becomes the error.
* **`Report.Yields`** ties both runs of a computation to one result and one list of reports,
  whatever was reported before. There is one lemma for each way of building a computation; only
  `yields_unsupported` looks at the policy.
* **`Report.Comparable`**: the two runs can be compared in this way. Every function on the way from
  a call to a file is comparable, so a strict run is the replay of the lenient one (`run_error_eq`).
-/

namespace QueryCompiler.Query

open Host Text

variable {α β : Type}

namespace Diagnostic

/-- Whether a report is about a call outside the vocabulary, by its wording: one form is for the
initializer and one for all other functions. -/
def isUnsupported (d : Diagnostic) : Bool :=
  "unsupported call `".toList.isPrefixOf d.message.toList ||
    s!"` is not supported in `{initializerName}`".toList.isSuffixOf d.message.toList

/-- A call that is not known is reported as unsupported. -/
theorem isUnsupported_call (pos : Pos) (name : String) :
    (warning pos s!"unsupported call `{name}`").isUnsupported = true := by
  have hprefix : "unsupported call `".toList <+: s!"unsupported call `{name}`".toList := by
    simp only [toString, String.toList_append, List.append_assoc]
    exact List.prefix_append _ _
  unfold isUnsupported warning
  rw [List.isPrefixOf_iff_prefix.mpr hprefix, Bool.true_or]

/-- So is one in the initializer. -/
theorem isUnsupported_initializer (pos : Pos) (name : String) :
    (warning pos s!"`{name}` is not supported in `{initializerName}`").isUnsupported = true := by
  have hsuffix : s!"` is not supported in `{initializerName}`".toList
      <:+ s!"`{name}` is not supported in `{initializerName}`".toList := by
    simp [toString, initializerName]
  unfold isUnsupported warning
  rw [List.isSuffixOf_iff_suffix.mpr hsuffix, Bool.or_true]

/-- The report about the size of a channel is worded otherwise. -/
theorem isUnsupported_buffer (pos : Pos) (name : String) :
    (warning pos
      s!"channel buffer size ignored: `{name}` does not return RecordChannel").isUnsupported
      = false := by
  simp [isUnsupported, warning, toString, initializerName, List.isSuffixOf, List.isPrefixOf]

end Diagnostic

/-! ## What a lenient run says about the strict one -/

/-- The reports of a lenient run that ended with `result`, under the strict policy: the first call
outside the vocabulary ends the run, and what was reported before it is kept. -/
def replay (result : Except Error α) : List Diagnostic → Except Error α × List Diagnostic
  | [] => (result, [])
  | d :: rest =>
    if d.isUnsupported then (.error (.unsupported d.pos d.message), [])
    else ((replay result rest).1, d :: (replay result rest).2)

/-- What stands before the first call outside the vocabulary is kept. -/
theorem replay_append {result : Except Error α} {ds ds' : List Diagnostic}
    (h : ∀ d ∈ ds, d.isUnsupported = false) :
    replay result (ds ++ ds') = ((replay result ds').1, ds ++ (replay result ds').2) := by
  induction ds with
  | nil => rfl
  | cons d rest ih =>
    obtain ⟨hd, hrest⟩ := List.forall_mem_cons.mp h
    simp [replay, hd, ih hrest]

/-- Without calls outside the vocabulary nothing changes. -/
theorem replay_of_supported {result : Except Error α} {ds : List Diagnostic}
    (h : ∀ d ∈ ds, d.isUnsupported = false) : replay result ds = (result, ds) := by
  have happend : replay result (ds ++ []) = _ := replay_append h
  rw [List.append_nil] at happend
  rw [happend, replay, List.append_nil]

/-- The first call outside the vocabulary ends the run, whatever follows it. -/
theorem replay_of_unsupported {result : Except Error α} {before after : List Diagnostic}
    {d : Diagnostic} (h : ∀ d ∈ before, d.isUnsupported = false) (hd : d.isUnsupported = true) :
    replay result (before ++ d :: after) = (.error (.unsupported d.pos d.message), before) := by
  rw [replay_append h, replay, if_pos hd, List.append_nil]

/-- Reports either have a first one about a call outside the vocabulary, or none at all. -/
theorem supported_or_exists_first (ds : List Diagnostic) :
    (∀ d ∈ ds, d.isUnsupported = false) ∨ ∃ before d after, ds = before ++ d :: after ∧
      (∀ d ∈ before, d.isUnsupported = false) ∧ d.isUnsupported = true := by
  induction ds with
  | nil => exact .inl fun d hd => absurd hd List.not_mem_nil
  | cons d rest ih =>
    cases hd : d.isUnsupported with
    | true => exact .inr ⟨[], d, rest, rfl, fun d hd => absurd hd List.not_mem_nil, hd⟩
    | false =>
      rcases ih with hrest | ⟨before, d', after, rfl, hbefore, hd'⟩
      · exact .inl (List.forall_mem_cons.mpr ⟨hd, hrest⟩)
      · exact .inr ⟨d :: before, d', after, rfl, List.forall_mem_cons.mpr ⟨hd, hbefore⟩, hd'⟩

namespace Report

/-- The computation from a reporter on. -/
def exec (x : Report α) (r : Reporter) : Except Error α × Reporter := (ExceptT.run x).run r

/-- What follows a result starts where the first part ended. -/
theorem exec_bind_of_ok {x : Report α} {f : α → Report β} {r r' : Reporter} {a : α}
    (h : exec x r = (.ok a, r')) : exec (x >>= f) r = exec (f a) r' := by
  unfold exec at h ⊢
  rw [ExceptT.run_bind, StateT.run_bind, h]
  rfl

/-- Nothing follows a failure. -/
theorem exec_bind_of_error {x : Report α} {f : α → Report β} {r r' : Reporter} {e : Error}
    (h : exec x r = (.error e, r')) : exec (x >>= f) r = (.error e, r') := by
  unfold exec at h ⊢
  rw [ExceptT.run_bind, StateT.run_bind, h]
  rfl

/-- Behind any reports, the lenient run of the computation ends with `result` and adds the reports
`ds`, and the strict one does what their replay says. -/
def Yields (x : Report α) (result : Except Error α) (ds : List Diagnostic) : Prop :=
  ∀ before, exec x ⟨.warn, before⟩ = (result, ⟨.warn, before ++ ds⟩) ∧
    exec x ⟨.error, before⟩ = ((replay result ds).1, ⟨.error, before ++ (replay result ds).2⟩)

/-- Both runs of the computation come from one result and one list of reports. -/
def Comparable (x : Report α) : Prop := ∃ result ds, Yields x result ds

/-- A step that cannot report is the same under both policies. -/
theorem comparable_lift (x : Except Error α) : Comparable (liftM x) := by
  refine ⟨x, [], fun before => ?_⟩
  rw [replay, List.append_nil]
  exact ⟨rfl, rfl⟩

theorem comparable_pure (a : α) : Comparable (pure a : Report α) := comparable_lift (.ok a)

theorem comparable_throw (e : Error) : Comparable (throw e : Report α) := comparable_lift (.error e)

/-- A report that is not about a call outside the vocabulary is made under both policies. -/
theorem comparable_warn {pos : Pos} {message : String}
    (h : (Diagnostic.warning pos message).isUnsupported = false) :
    Comparable (warn pos message) := by
  refine ⟨.ok (), [.warning pos message], fun before => ?_⟩
  rw [replay_of_supported (by simpa using h)]
  exact ⟨rfl, rfl⟩

/-- **The one place where the policy is read**: a call outside the vocabulary is reported, or it
ends the run. -/
theorem comparable_unsupported {pos : Pos} {message : String}
    (h : (Diagnostic.warning pos message).isUnsupported = true) :
    Comparable (unsupported pos message) := by
  refine ⟨.ok (), [.warning pos message], fun before => ⟨rfl, ?_⟩⟩
  have hreplay : replay (.ok ()) [Diagnostic.warning pos message]
      = (.error (.unsupported pos message), []) :=
    replay_of_unsupported (fun d hd => absurd hd List.not_mem_nil) h
  rw [hreplay, List.append_nil]
  rfl

/-- **One step after the other.** If the first step meets a call outside the vocabulary, its strict
run ends there, and so does that of both; else the runs of the second step decide. -/
theorem Yields.bind {x : Report α} {f : α → Report β} {a : α} {result : Except Error β}
    {ds ds' : List Diagnostic} (hx : Yields x (.ok a) ds) (hf : Yields (f a) result ds') :
    Yields (x >>= f) result (ds ++ ds') := by
  intro before
  obtain ⟨hlenient, hstrict⟩ := hx before
  obtain ⟨hlenient', hstrict'⟩ := hf (before ++ ds)
  constructor
  · rw [exec_bind_of_ok hlenient, hlenient', List.append_assoc]
  · rcases supported_or_exists_first ds with hds | ⟨first, d, after, rfl, hfirst, hd⟩
    · rw [replay_of_supported hds] at hstrict
      rw [exec_bind_of_ok hstrict, hstrict']
      rw [replay_append hds, List.append_assoc]
    · rw [replay_of_unsupported hfirst hd] at hstrict
      rw [exec_bind_of_error hstrict, List.append_assoc, List.cons_append,
        replay_of_unsupported hfirst hd]

/-- A step that fails is the last one under both policies. -/
theorem Yields.bind_error {x : Report α} {f : α → Report β} {e : Error} {ds : List Diagnostic}
    (hx : Yields x (.error e) ds) : Yields (x >>= f) (.error e) ds := by
  intro before
  obtain ⟨hlenient, hstrict⟩ := hx before
  refine ⟨exec_bind_of_error hlenient, ?_⟩
  -- The strict run of `x` fails too, by the same fault or by an earlier call.
  rcases supported_or_exists_first ds with hds | ⟨first, d, after, rfl, hfirst, hd⟩
  · rw [replay_of_supported hds] at hstrict ⊢
    exact exec_bind_of_error hstrict
  · rw [replay_of_unsupported hfirst hd] at hstrict ⊢
    exact exec_bind_of_error hstrict

/-- **Two parts.** If the first is refused under the strict policy, so is the whole; otherwise both
policies go on with the same result. -/
theorem Comparable.bind {x : Report α} {f : α → Report β} (hx : Comparable x)
    (hf : ∀ a, Comparable (f a)) : Comparable (x >>= f) := by
  obtain ⟨result, ds, hx⟩ := hx
  cases result with
  | error e => exact ⟨.error e, ds, hx.bind_error⟩
  | ok a =>
    obtain ⟨result', ds', hfa⟩ := hf a
    exact ⟨result', ds ++ ds', hx.bind hfa⟩

/-- Induction along the list that is folded over. -/
theorem Comparable.foldlM {f : β → α → Report β} (hf : ∀ b a, Comparable (f b a)) (as : List α)
    (b : β) : Comparable (as.foldlM f b) := by
  induction as generalizing b with
  | nil => exact comparable_pure b
  | cons a rest ih =>
    rw [List.foldlM_cons]
    exact (hf b a).bind ih

/-- **Any number of parts.** Induction on the list. -/
theorem Comparable.mapM {f : α → Report β} (hf : ∀ a, Comparable (f a)) (as : List α) :
    Comparable (as.mapM f) := by
  induction as with
  | nil =>
    rw [List.mapM_nil]
    exact comparable_pure []
  | cons a rest ih =>
    rw [List.mapM_cons]
    exact (hf a).bind fun b => ih.bind fun bs => comparable_pure (b :: bs)

/-- The strict run of a comparable computation is the replay of its lenient one. -/
theorem Comparable.run_error_eq {x : Report α} (hx : Comparable x) :
    Report.run .error x = replay (Report.run .warn x).1 (Report.run .warn x).2 := by
  obtain ⟨result, ds, hyields⟩ := hx
  obtain ⟨hlenient, hstrict⟩ := hyields []
  have hwarn : Report.run .warn x = (result, ds) := by
    show ((exec x ⟨.warn, []⟩).1, (exec x ⟨.warn, []⟩).2.diagnostics) = _
    rw [hlenient]
    rfl
  show ((exec x ⟨.error, []⟩).1, (exec x ⟨.error, []⟩).2.diagnostics) = _
  rw [hstrict, hwarn]
  rfl

end Report

/-! ## From calls to files -/

open Report

/-- Reading the size of the channel warns once at most. -/
theorem Draft.comparable_channelBuffer (d : Draft) (name : String) :
    Comparable (d.channelBuffer name) := by
  unfold Draft.channelBuffer
  split
  · exact comparable_pure none
  · next size pos hbuffer =>
    split
    · exact comparable_pure (some size)
    · exact (comparable_warn (Diagnostic.isUnsupported_buffer pos name)).bind fun _ =>
        comparable_pure none

/-- Finishing a draft can fail under both policies, and warns of the channel only. -/
theorem Draft.comparable_finish (d : Draft) (name : String) (pos : Pos) (params : List FnParam) :
    Comparable (d.finish name pos params) := by
  unfold Draft.finish
  split
  · exact comparable_throw _
  · next table =>
    refine (comparable_lift _).bind fun _ => ?_
    refine (d.comparable_channelBuffer name).bind fun buffer => ?_
    exact (comparable_lift _).bind fun _ => comparable_pure _

/-- A call outside the vocabulary leaves the draft alone, so a lenient run goes on as if it were not
there. Induction along the calls. -/
theorem comparable_applyCalls (sc : Scope) (d : Draft) (calls : List Call) :
    Comparable (applyCalls sc d calls) := by
  induction calls generalizing d with
  | nil => exact comparable_pure d
  | cons call rest ih =>
    unfold applyCalls
    split
    · exact (comparable_lift _).bind ih
    · exact (comparable_unsupported (Diagnostic.isUnsupported_call call.pos call.name)).bind
        fun _ => ih d

/-- A function is read call by call; only the calls can be outside of the vocabulary. -/
theorem comparable_interpretFunction (fn : Function) (es : Entities) :
    Comparable (interpretFunction fn es) := by
  unfold interpretFunction
  dsimp only
  split
  · exact comparable_pure none
  · refine (Comparable.mapM (fun p => comparable_lift _) _).bind fun params => ?_
    refine (comparable_applyCalls _ _ _).bind fun draft => ?_
    exact (draft.comparable_finish _ _ _).bind fun _ => comparable_pure _

/-- The initializer has a vocabulary of its own. -/
theorem comparable_configure (config : ModuleConfig) (call : Call) :
    Comparable (configure config call) := by
  unfold configure
  split
  · refine (comparable_lift _).bind fun name => ?_
    split
    · exact (comparable_throw _).bind fun _ => comparable_pure _
    · exact comparable_pure _
  · refine (comparable_lift _).bind fun path => ?_
    split
    · exact (comparable_throw _).bind fun _ => comparable_pure _
    · exact comparable_pure _
  · exact (comparable_unsupported (Diagnostic.isUnsupported_initializer call.pos call.name)).bind
      fun _ => comparable_pure config

theorem comparable_addItem (m : Module) (item : Item) : Comparable (addItem m item) := by
  unfold addItem
  split
  · exact comparable_pure _
  · next fn =>
    split
    · exact (Comparable.foldlM comparable_configure _ _).bind fun _ => comparable_pure _
    · refine (comparable_interpretFunction fn m.entities).bind fun result => ?_
      cases result with
      | some f => exact comparable_pure _
      | none => exact comparable_pure m
  · exact comparable_pure m

/-- **A whole file is treated alike under both policies**, up to the first thing that is refused. -/
theorem comparable_interpretFile (items : List Item) : Comparable (interpretFile items) :=
  (comparable_lift _).bind fun _ => Comparable.foldlM comparable_addItem items _

/-- **The policies differ at calls outside the vocabulary only.** Where the lenient run of a file
reports no such call, be it accepted or refused, the strict run ends in the same way with the same
reports. Otherwise the strict run is refused for the first of these calls, at its place and with its
message, and has reported what the lenient run had reported before it. -/
theorem strict_run_ends_at_first_unsupported (items : List Item) :
    let lenient := Report.run .warn (interpretFile items)
    let strict := Report.run .error (interpretFile items)
    ((∀ d ∈ lenient.2, d.isUnsupported = false) → strict = lenient) ∧
    ∀ before d after, lenient.2 = before ++ d :: after →
      (∀ d ∈ before, d.isUnsupported = false) → d.isUnsupported = true →
      strict = (.error (.unsupported d.pos d.message), before) := by
  intro lenient strict
  have hreplay : strict = replay lenient.1 lenient.2 :=
    (comparable_interpretFile items).run_error_eq
  constructor
  · intro hnone
    rw [hreplay, replay_of_supported hnone]
  · intro before d after hsplit hbefore hd
    rw [hreplay, hsplit, replay_of_unsupported hbefore hd]

/-! ## A file that both policies refuse -/

namespace LateFault

open Unplaced

/-- A size that is ignored, a call outside the vocabulary, and behind them a query of no table. -/
def items : List Item :=
  [record "Item" ["Id"], entity "item" "Item",
    .function (function "all" []
      [call "SelectAll" [name "item"],
        call "SetChannelBufferSize" [.lit (excerpt "4") (.int "4" "")]]),
    .function (function "init" [] [call "set_driver" [.lit (excerpt "\"pg\"") (.str "pg")]]),
    .function (function "lost" [] [call "SelectAll" [name "nobody"]])]

/-- The size that is ignored. -/
def ignored : Diagnostic :=
  .warning .start "channel buffer size ignored: `all` does not return RecordChannel"

/-- The call outside the vocabulary. -/
def outside : Diagnostic := .warning .start "`set_driver` is not supported in `init`"

/-- The lenient run goes on to the query of no table; the strict one ends at the call before it. -/
theorem strict_run_ends_at_driver :
    Report.run .warn (interpretFile items)
        = (.error (.argument .start (.notEntity "nobody")), [ignored, outside]) ∧
      Report.run .error (interpretFile items)
        = (.error (.unsupported outside.pos outside.message), [ignored]) := by
  refine ⟨rfl, ?_⟩
  obtain ⟨-, hfirst⟩ := strict_run_ends_at_first_unsupported items
  exact hfirst [ignored] outside [] rfl (by decide) (by decide)

end LateFault

end QueryCompiler.Query
