import CommandLine.Proofs.Checked
import CommandLine.Proofs.Numeral.Binary64
import CommandLine.Proofs.Typesetting
import CommandLine.Report.Group

namespace CommandLine

namespace Layout

mutual

/-- The layout with all its texts and titles erased. -/
def erase : Layout → Layout
  | text t => .text t.erase
  | group items => .group (eraseAll items)
  | panel inner title width => .panel (erase inner) title.erase width

/-- Layouts with their texts and titles erased. -/
def eraseAll : List Layout → List Layout
  | [] => []
  | item :: rest => erase item :: eraseAll rest

end

mutual

/-- The titles and texts of a layout from top to bottom. -/
def allTexts : Layout → List StyledText
  | text t => [t]
  | group items => allTextsOf items
  | panel inner title _ => title :: allTexts inner

/-- The titles and texts of layouts below one another. -/
def allTextsOf : List Layout → List StyledText
  | [] => []
  | item :: rest => allTexts item ++ allTextsOf rest

end

theorem eraseAll_eq_map (items : List Layout) : eraseAll items = items.map erase := by
  induction items with
  | nil => rfl
  | cons item rest ih => rw [eraseAll, ih, List.map_cons]

theorem allTextsOf_eq_flatMap (items : List Layout) : allTextsOf items = items.flatMap allTexts := by
  induction items with
  | nil => rfl
  | cons item rest ih => rw [allTextsOf, ih, List.flatMap_cons]

end Layout

section

variable {setter : Typesetter} (hlawful : setter.Lawful) (host : Host)

include hlawful

/-- A part without styles is the part with styles, erased. A styled text loses what it has of its own. -/
theorem renderPart_off {v : Value} (part : Part) (hkept : ∀ t, v = .styled t → setter.Keeps t) :
    renderPart setter host false part v = (renderPart setter host true part v).erase := by
  unfold renderPart
  split
  · cases v with
    | styled t => exact hlawful.ofString_text_eq_erase (hkept t rfl)
    | _ => exact hlawful.ofString_eq_erase ..
  · exact hlawful.ofString_eq_erase ..

/-- Without colours, a text is what it is with them, its style erased. -/
theorem renderText_off (part : Part) (text : String) :
    renderText setter host false part text = (renderText setter host true part text).erase := by
  apply renderPart_off hlawful
  rintro t ⟨⟩

theorem separator_off (text : String) : separator setter text = (separator setter text).erase :=
  hlawful.ofString_eq_erase text ""

theorem faultHeader_off (label title : String) :
    faultHeader setter host false label title = (faultHeader setter host true label title).erase := by
  have hparts : headerParts setter host false label title =
      (headerParts setter host true label title).map StyledText.erase := by
    simp only [headerParts, List.map_cons, List.map_nil, ← renderText_off hlawful, ← separator_off hlawful]
  unfold faultHeader
  rw [hparts, hlawful.assemble_map_erase]

/-- Without colours, the line of a hint loses its styles and nothing else, if the hint's text is kept. -/
theorem hintLine_off {hint : Value} (hkept : ∀ t, hint = .styled t → setter.Keeps t) :
    hintLine setter host false hint = (hintLine setter host true hint).erase := by
  have hparts : hintParts setter host false hint =
      (hintParts setter host true hint).map StyledText.erase := by
    simp only [hintParts, List.map_cons, List.map_nil, ← renderText_off hlawful,
      ← renderPart_off hlawful host .hint hkept]
  unfold hintLine
  rw [hparts, hlawful.assemble_map_erase]

/-- The report of a fault without styles is its report with styles, erased, in a panel or not. -/
theorem faultLayout_off {hint : Value} (hkept : ∀ t, hint = .styled t → setter.Keeps t) (fancy : Bool)
    (width : Option Int) (label title message : String) :
    faultLayout setter host ⟨false, fancy, width⟩ label title message hint =
      (faultLayout setter host ⟨true, fancy, width⟩ label title message hint).erase := by
  unfold faultLayout
  dsimp only
  rw [faultHeader_off hlawful, renderText_off hlawful, hintLine_off hlawful host hkept]
  cases fancy <;> rfl

theorem FaultGroup.header_off : header setter host false = (header setter host true).erase := by
  have hparts : headerParts setter host false = (headerParts setter host true).map StyledText.erase := by
    simp only [headerParts, List.map_cons, List.map_nil, ← renderText_off hlawful, ← separator_off hlawful]
  unfold header
  rw [hparts, hlawful.assemble_map_erase]

/-- Over erased members stands the erased header. -/
theorem FaultGroup.layout_off (fancy : Bool) (members : List Layout) :
    layout setter host false fancy (members.map Layout.erase) =
      (layout setter host true fancy members).erase := by
  unfold layout
  dsimp only
  rw [header_off hlawful, ← Layout.eraseAll_eq_map]
  cases fancy <;> rfl

end

/-- The width of a panel, if there is one and its share of the console is set. -/
def panelWidth (columns : Nat) (fancy : Bool) (ratio : Option Value) : Except WidthError (Option Int) :=
  match fancy, ratio with
  | true, some ratio => (shareColumns columns ratio).map some
  | _, _ => .ok none

/-- Styles have no say in the width of a panel. -/
theorem RenderingOptions.resolve_eq (columns : Nat) (colorful fancy : Bool) (ratio : Option Value) :
    (⟨colorful, fancy, ratio⟩ : RenderingOptions).resolve columns =
      (panelWidth columns fancy ratio).map fun width => ⟨colorful, fancy, width⟩ := by
  cases fancy with
  | false => rfl
  | true =>
    cases ratio with
    | none => rfl
    | some share =>
      cases hshare : shareColumns columns share <;> simp [resolve, panelWidth, hshare, Except.map]

namespace Notice

/-- The hint of a notice is no styled text with characters that the typesetter does not keep. -/
def Kept (setter : Typesetter) (n : Notice) : Prop :=
  ∀ t, n.hint = .styled t → setter.Keeps t

/-- The hint of a notice is no styled text with spans. -/
def Bare (n : Notice) : Prop :=
  ∀ t, n.hint = .styled t → t.spans = []

/-- The hint of a fault is a text that the typesetter keeps. -/
theorem kept_ofFault (setter : Typesetter) (options : RenderingOptions) (fault : Fault) :
    (ofFault options fault).Kept setter := by
  rintro t ⟨⟩

theorem bare_ofFault (options : RenderingOptions) (fault : Fault) : (ofFault options fault).Bare := by
  rintro t ⟨⟩

/-- What a notice has to have to be rendered: a code, a title and the width of its panel. -/
def needed (columns : Nat) (fancy : Bool) (ratio : Option Value) (n : Notice) :
    Except RenderError (FaultCode × String × Option Int) := do
  let code ← n.code?
  let title ← n.titleText
  let width ← (panelWidth columns fancy ratio).mapError .width
  .ok (code, title, width)

/-- A report is laid out once everything needed is there. -/
theorem render_restyle (setter : Typesetter) (host : Host) (colorful fancy : Bool) (ratio : Option Value)
    (n : Notice) :
    (n.restyle ⟨colorful, fancy, ratio⟩).render setter host =
      (n.needed setter.columns fancy ratio).map fun (code, title, width) =>
        faultLayout setter host ⟨colorful, fancy, width⟩ (host.label code) title n.message n.hint := by
  have hcode : (n.restyle ⟨colorful, fancy, ratio⟩).code? = n.code? := rfl
  have htitle : (n.restyle ⟨colorful, fancy, ratio⟩).titleText = n.titleText := rfl
  have hresolve := RenderingOptions.resolve_eq setter.columns colorful fancy ratio
  unfold render needed
  rw [hcode, htitle]
  simp only [restyle, hresolve]
  cases n.code? with
  | error => rfl
  | ok code =>
    cases n.titleText with
    | error => rfl
    | ok title => cases panelWidth setter.columns fancy ratio <;> rfl

/-- The fault of a parse has all that is needed but, perhaps, a width. -/
theorem needed_ofFault {columns : Nat} {fancy : Bool} {ratio : Option Value} {width : Option Int}
    (hwidth : panelWidth columns fancy ratio = .ok width) (options : RenderingOptions) (fault : Fault) :
    (ofFault options fault).needed columns fancy ratio = .ok (fault.code, fault.title, width) := by
  rw [needed, hwidth]
  rfl

/-- The fault of a parse is rendered if its panel has a width. -/
theorem exists_render {setter : Typesetter} {fancy : Bool} {ratio : Option Value} {width : Option Int}
    (hwidth : panelWidth setter.columns fancy ratio = .ok width) (host : Host) (colorful : Bool)
    (fault : Fault) :
    ∃ layout, ((ofFault .usual fault).restyle ⟨colorful, fancy, ratio⟩).render setter host =
      .ok layout := by
  rw [render_restyle, needed_ofFault hwidth]
  exact ⟨_, rfl⟩

/-- A notice is refused or not whether styles are on or off, and what a report loses without styles are
the styles and the spans. -/
theorem render_off {setter : Typesetter} (hlawful : setter.Lawful) (host : Host) (fancy : Bool)
    (ratio : Option Value) {n : Notice} (hkept : n.Kept setter) :
    (n.restyle ⟨false, fancy, ratio⟩).render setter host =
      ((n.restyle ⟨true, fancy, ratio⟩).render setter host).map Layout.erase := by
  rw [render_restyle, render_restyle]
  cases n.needed setter.columns fancy ratio with
  | error refusal => rfl
  | ok found =>
    obtain ⟨code, title, width⟩ := found
    exact congrArg Except.ok
      (faultLayout_off hlawful host hkept fancy width (host.label code) title n.message)

end Notice

/-- A group of notices is refused or not whether styles are on or off, and loses the styles of every
member. -/
theorem FaultGroup.renderNotices_off {setter : Typesetter} (hlawful : setter.Lawful) (host : Host)
    (fancy : Bool) {notices : List Notice} (hkept : ∀ n ∈ notices, n.Kept setter) :
    renderNotices setter host false fancy notices =
      (renderNotices setter host true fancy notices).map Layout.erase := by
  have hmembers := mapM_eq_map fun n hn =>
    Notice.render_off hlawful host fancy (some memberShare) (hkept n hn)
  unfold renderNotices memberOptions
  rw [hmembers]
  cases notices.mapM fun n : Notice => (n.restyle ⟨true, fancy, some memberShare⟩).render setter host with
  | error => rfl
  | ok members => exact congrArg Except.ok (layout_off hlawful host fancy members)

/-- Two thirds of a console whose columns are a machine integer are a width. -/
theorem FaultGroup.exists_shareColumns_memberShare {columns : Nat} (hcolumns : columns < 2 ^ 64) :
    ∃ width, shareColumns columns memberShare = .ok width := by
  have hpanel : (panelColumns columns).natAbs < 2 ^ 64 := by
    unfold panelColumns
    omega
  obtain ⟨units, hunits, hinteger⟩ := Numeral.Binary64.exists_ofInt_finite hpanel
  have hthirds : 2 ≤ 3 := by decide
  obtain ⟨share, hshare, hratio⟩ := Numeral.Binary64.exists_ofRatio_share false hthirds
  obtain ⟨negative, product, hproduct⟩ :=
    Numeral.Binary64.exists_times_finite (panelColumns columns < 0) false hunits hshare
  refine ⟨Numeral.signed negative (product / Numeral.Binary64.unitsPerOne), ?_⟩
  rw [memberShare, hratio, shareColumns, hinteger, multiple, hproduct]
  rfl

section

variable {setter : Typesetter} (hlawful : setter.Lawful) (host : Host)

include hlawful

/-- A part has no spans when its value has none. -/
theorem spans_renderPart {v : Value} (part : Part) (hbare : ∀ t, v = .styled t → t.spans = []) :
    (renderPart setter host true part v).spans = [] := by
  unfold renderPart
  split
  · cases v with
    | styled t => exact hbare t rfl
    | _ => exact hlawful.spans_ofString ..
  · exact hlawful.spans_ofString ..

theorem spans_renderText (part : Part) (text : String) :
    (renderText setter host true part text).spans = [] := by
  apply spans_renderPart hlawful
  rintro t ⟨⟩

theorem spans_separator (text : String) : (separator setter text).spans = [] :=
  hlawful.spans_ofString text ""

/-- The styles of a header cover its parts, each from its start to its end. -/
theorem coveredBy_faultHeader (label title : String) :
    (faultHeader setter host true label title).CoveredBy (headerParts setter host true label title) := by
  apply hlawful.coveredBy_assemble
  simp [headerParts, spans_renderText hlawful, spans_separator hlawful]

theorem coveredBy_hintLine {hint : Value} (hbare : ∀ t, hint = .styled t → t.spans = []) :
    (hintLine setter host true hint).CoveredBy (hintParts setter host true hint) := by
  apply hlawful.coveredBy_assemble
  simp [hintParts, spans_renderText hlawful, spans_renderPart hlawful host .hint hbare]

theorem FaultGroup.coveredBy_header :
    (header setter host true).CoveredBy (headerParts setter host true) := by
  apply hlawful.coveredBy_assemble
  simp [headerParts, spans_renderText hlawful, spans_separator hlawful]

end

/-- What a report shows of a notice: a header and a hint, whose spans are over their parts, and between
them a message without spans. -/
def Notice.Shown (setter : Typesetter) (host : Host) (n : Notice) (layout : Layout) : Prop :=
  ∃ code title header message hint, n.code = some code ∧ n.title = .text title ∧
    layout.allTexts = [header, message, hint] ∧
      header.CoveredBy (headerParts setter host true (host.label code) title) ∧ message.spans = [] ∧
        hint.CoveredBy (hintParts setter host true n.hint)

theorem Notice.code?_eq_ok_iff {n : Notice} {code : FaultCode} : n.code? = .ok code ↔ n.code = some code := by
  unfold code?
  cases n.code <;> simp

theorem Notice.titleText_eq_ok_iff {n : Notice} {title : String} :
    n.titleText = .ok title ↔ n.title = .text title := by
  unfold titleText
  cases n.title <;> simp

/-- With styles, a report shows its notice. -/
theorem Notice.shown_of_render {setter : Typesetter} (hlawful : setter.Lawful) (host : Host) {n : Notice}
    {fancy : Bool} {ratio : Option Value} {layout : Layout} (hbare : n.Bare)
    (h : (n.restyle ⟨true, fancy, ratio⟩).render setter host = .ok layout) :
    n.Shown setter host layout := by
  rw [render_restyle, Except.map_eq_ok_iff] at h
  obtain ⟨⟨code, title, width⟩, hneeded, rfl⟩ := h
  obtain ⟨label, hcode, hneeded⟩ := Except.bind_eq_ok_iff.mp hneeded
  obtain ⟨text, htitle, hneeded⟩ := Except.bind_eq_ok_iff.mp hneeded
  obtain ⟨columns, _, ⟨⟩⟩ := Except.bind_eq_ok_iff.mp hneeded
  refine ⟨code, title, faultHeader setter host true (host.label code) title,
    renderText setter host true .message n.message, hintLine setter host true n.hint,
    code?_eq_ok_iff.mp hcode, titleText_eq_ok_iff.mp htitle, ?_,
    coveredBy_faultHeader hlawful host (host.label code) title,
    spans_renderText hlawful host .message n.message, coveredBy_hintLine hlawful host hbare⟩
  unfold faultLayout
  cases fancy <;> rfl

/-- A group is laid out as its header and its members, in their order. -/
theorem FaultGroup.allTexts_layout (setter : Typesetter) (host : Host) (fancy : Bool)
    (members : List Layout) :
    (layout setter host true fancy members).allTexts =
      header setter host true :: members.flatMap Layout.allTexts := by
  rw [← Layout.allTextsOf_eq_flatMap]
  unfold layout
  cases fancy <;> rfl

/-- What the report of a group shows: a header, whose spans are over its parts, and below it the reports
of its notices in their order. -/
def FaultGroup.Shown (setter : Typesetter) (host : Host) (fancy : Bool) (notices : List Notice)
    (layout : Layout) : Prop :=
  ∃ header members, layout.allTexts = header :: members.flatMap Layout.allTexts ∧
    header.CoveredBy (headerParts setter host true) ∧
      List.Forall₂ (fun n member => n.Shown setter host member ∧
        (n.restyle (memberOptions true fancy)).render setter host = .ok member) notices members

/-- With styles, the report of a group shows all its notices. -/
theorem FaultGroup.shown_of_renderNotices {setter : Typesetter} (hlawful : setter.Lawful) (host : Host)
    {notices : List Notice} {fancy : Bool} {layout : Layout} (hbare : ∀ n ∈ notices, n.Bare)
    (h : renderNotices setter host true fancy notices = .ok layout) :
    Shown setter host fancy notices layout := by
  obtain ⟨members, hmembers, rfl⟩ := Except.map_eq_ok_iff.mp h
  have hreports := (List.forall₂_and_left _ _).mpr ⟨hbare, mapM_eq_ok_iff.mp hmembers⟩
  refine ⟨header setter host true, members, allTexts_layout setter host fancy members,
    coveredBy_header hlawful host, ?_⟩
  exact hreports.imp fun n member ⟨hn, hreport⟩ =>
    ⟨Notice.shown_of_render hlawful host hn hreport, hreport⟩

/-- On a console whose columns are a machine integer, the panels of members have a width. -/
theorem FaultGroup.exists_panelWidth {columns : Nat} (hcolumns : columns < 2 ^ 64) (fancy : Bool) :
    ∃ width, panelWidth columns fancy (some memberShare) = .ok width := by
  cases fancy with
  | false => exact ⟨none, rfl⟩
  | true =>
    obtain ⟨width, hshare⟩ := exists_shareColumns_memberShare hcolumns
    exact ⟨some width, by rw [panelWidth, hshare]; rfl⟩

/-- A group is rendered if the panels of its members have a width. -/
theorem FaultGroup.exists_render {setter : Typesetter} {fancy : Bool} {width : Option Int}
    (hwidth : panelWidth setter.columns fancy (some memberShare) = .ok width) (host : Host)
    (g : FaultGroup) : ∃ layout, g.render setter host true fancy = .ok layout := by
  choose report hreport using Notice.exists_render hwidth host true
  have hmembers : g.faults.mapM (fun fault => (.ok (report fault) : Except RenderError Layout)) =
      .ok (g.faults.map report) := List.mapM_pure
  refine ⟨layout setter host true fancy (g.faults.map report), ?_⟩
  rw [render, renderNotices, List.mapM_map]
  simp only [Function.comp_def, memberOptions, hreport]
  rw [hmembers]
  rfl

/-- What styles come to in reports. Without them a report is the report with styles, erased: it has the
same texts, titles and widths in the same places. With them, the spans of headers and hints are over
their parts, and a group shows one report for each of its members. -/
structure ErasesStyles (setter : Typesetter) (host : Host) (fancy : Bool) (ratio : Option Value) :
    Prop where
  notice : ∀ n : Notice, n.Kept setter →
    (n.restyle ⟨false, fancy, ratio⟩).render setter host =
      ((n.restyle ⟨true, fancy, ratio⟩).render setter host).map Layout.erase
  notices : ∀ notices : List Notice, (∀ n ∈ notices, n.Kept setter) →
    FaultGroup.renderNotices setter host false fancy notices =
      (FaultGroup.renderNotices setter host true fancy notices).map Layout.erase
  /-- The fault of a parse is rendered whenever its panel has a width. -/
  fault : ∀ (fault : Fault) (width : Option Int), panelWidth setter.columns fancy ratio = .ok width →
    ∃ layout, ((Notice.ofFault .usual fault).restyle ⟨true, fancy, ratio⟩).render setter host =
        .ok layout ∧
      ((Notice.ofFault .usual fault).restyle ⟨false, fancy, ratio⟩).render setter host =
          .ok layout.erase ∧
        (Notice.ofFault .usual fault).Shown setter host layout
  /-- The faults of a parse are rendered together whenever the panels in the group have a width. -/
  group : ∀ (g : FaultGroup) (width : Option Int),
    panelWidth setter.columns fancy (some FaultGroup.memberShare) = .ok width →
      ∃ layout, g.render setter host true fancy = .ok layout ∧
        g.render setter host false fancy = .ok layout.erase ∧
          FaultGroup.Shown setter host fancy (g.faults.map (.ofFault .usual)) layout
  /-- They have one on every console whose columns are a machine integer. -/
  width : setter.columns < 2 ^ 64 →
    ∃ width, panelWidth setter.columns fancy (some FaultGroup.memberShare) = .ok width
  shown : ∀ (n : Notice) (layout : Layout), n.Bare →
    (n.restyle ⟨true, fancy, ratio⟩).render setter host = .ok layout → n.Shown setter host layout
  allShown : ∀ (notices : List Notice) (layout : Layout), (∀ n ∈ notices, n.Bare) →
    FaultGroup.renderNotices setter host true fancy notices = .ok layout →
      FaultGroup.Shown setter host fancy notices layout

/-- A report without styles is the report with styles, erased, whatever the host sets and whatever is
reported: one fault or several, faults of a parse or notices made by hand. -/
theorem reports_erase_styles {setter : Typesetter} (hlawful : setter.Lawful) (host : Host) (fancy : Bool)
    (ratio : Option Value) : ErasesStyles setter host fancy ratio := by
  have hkept : ∀ fault : Fault, (Notice.ofFault .usual fault).Kept setter :=
    Notice.kept_ofFault setter .usual
  have hbare : ∀ fault : Fault, (Notice.ofFault .usual fault).Bare := Notice.bare_ofFault .usual
  constructor
  case notice => exact fun n hkept => Notice.render_off hlawful host fancy ratio hkept
  case notices => exact fun notices hkept => FaultGroup.renderNotices_off hlawful host fancy hkept
  case fault =>
    intro fault width hwidth
    obtain ⟨layout, hrender⟩ := Notice.exists_render hwidth host true fault
    refine ⟨layout, hrender, ?_, Notice.shown_of_render hlawful host (hbare fault) hrender⟩
    rw [Notice.render_off hlawful host fancy ratio (hkept fault), hrender]
    rfl
  case group =>
    intro g width hwidth
    obtain ⟨layout, hrender⟩ := FaultGroup.exists_render hwidth host g
    refine ⟨layout, hrender, ?_, FaultGroup.shown_of_renderNotices hlawful host
      (List.forall_mem_map.mpr fun fault _ => hbare fault) hrender⟩
    have hoff := FaultGroup.renderNotices_off hlawful host fancy
      (List.forall_mem_map.mpr fun fault (_ : fault ∈ g.faults) => hkept fault)
    rw [FaultGroup.render] at hrender ⊢
    rw [hoff, hrender]
    rfl
  case width => exact fun hcolumns => FaultGroup.exists_panelWidth hcolumns fancy
  case shown => exact fun n layout hbare hrender => Notice.shown_of_render hlawful host hbare hrender
  case allShown =>
    exact fun _ _ hbare hrender => FaultGroup.shown_of_renderNotices hlawful host hbare hrender

/-- A hint in a style of its own loses it, and with styles has a span of its own in a panel. -/
theorem styledHint_erased :
    let setter := Console.typesetter 80
    let host : Host := ⟨some "tool", "", [("code", "")], [], []⟩
    let n : Notice := ⟨none, "no such file", some .conversionError, .text "bad path",
      .styled ⟨"see the manual", "bold red", []⟩, none, none, none, .tuple [], none, .usual⟩
    setter.Lawful ∧
      ∃ layout, (n.restyle ⟨true, true, none⟩).render setter host = .ok layout ∧
        n.Shown setter host layout ∧
          (n.restyle ⟨false, true, none⟩).render setter host = .ok layout.erase := by
  intro setter host n
  have hkept : n.Kept setter := by
    rintro t ⟨⟩
    exact ⟨"see the manual", "bold red", by decide⟩
  have hbare : n.Bare := by
    rintro t ⟨⟩
    rfl
  have herases := reports_erase_styles (Console.lawful 80) host true none
  refine ⟨Console.lawful 80, _, rfl, herases.shown n _ hbare rfl, ?_⟩
  rw [herases.notice n hkept]
  rfl

end CommandLine
