import Switchboard.Document.Writing
import Switchboard.Rehearsal.Sheet

/-! Minutes: the reports of a rehearsal as documents. What a report has nothing to say about is
left out. -/

namespace Switchboard.Rehearsal
open Document

def ofOutcome : Outcome → Document
  | .nothing => null
  | .skipped => text "skipped"
  | .done => text "ok"
  | .refused error => ofError error
  | .called connection => ofFields [("ok", ofConnection connection)]
  | .ended info => ofFields [("err", ofInfo info), ("display", text info.text)]
  | .created connection => ofConnection connection
  | .verdict holds => flag holds
  | .settings settings => ofSettings settings
  | .carrier config => ofCarrier config
  | .conference found => ofOption ofConference found
  | .membership conference found => list [ofOption ofConference conference, flag found]
  | .contains isMember members => list [flag isMember, ofNat members]
  | .changes changes => Document.ofList ofChange changes
  | .aggregated change technology conference =>
    list [ofOption ofChange change, ofNamed technology, ofOption ofConference conference]
  | .roster result length => list [ofOption flag result, ofNat length, flag (length == 0)]
  | .waited outcome => list [ofNamed outcome, flag outcome.isReached]
  | .started errand => ofFields [("bg", ofNat errand)]

def ofLine : LogLine → Document
  | .event id event => ofEvent id event
  | .call call => ofCall call
  | .remark (.observed name) => ofFields [("listener", text name)]
  | .remark (.during name outcome) => ofFields [("during", text name), ("r", ofOutcome outcome)]

def ofConnectionField : ConnectionField → String × Document
  | .direction value => ("dir", ofNamed value)
  | .state value => ("state", ofNamed value)
  | .watched value => ("watch", ofNamed value)
  | .phone value => ("phone", ofPhone value)
  | .subscription value => ("sub", ofOption ofSubscription value)
  | .technology value => ("tech", ofNamed value)
  | .caps value => ("caps", ofNat value.bits)
  | .props value => ("props", ofNat value.bits)
  | .address value => ("addr", ofOption text value)
  | .addressPresentation value => ("addr_pres", ofNamed value)
  | .dialed value => ("dialed", text value.text)
  | .callerName value => ("name", ofOption text value)
  | .video value => ("video", ofNamed value)
  | .extras value => ("extras", ofExtras value)
  | .emergency value => ("emergency", flag value)
  | .testEmergency value => ("test", flag value)
  | .adhocConference value => ("adhoc", flag value)
  | .multiparty value => ("multiparty", flag value)
  | .conference value => ("conf", ofOption ofConference value)
  | .rttStream value => ("rtt", ofOption text value)
  | .ended value => ("disc", ofOption ofInfo value)
  | .leg value => ("radio", ofOption ofLeg value)
  | .awaitingRedial value => ("redial", flag value)
  | .selectionActive value => ("ds", flag value)
  | .destroyed value => ("destroyed", flag value)
  | .listeners count => ("listeners", ofNat count)

def ofConferenceField : ConferenceField → String × Document
  | .technology value => ("tech", ofNamed value)
  | .members value => ("members", Document.ofList ofConnection value)
  | .host value => ("host", ofOption ofConnection value)
  | .length value => ("len", ofNat value)
  | .empty value => ("empty", flag value)
  | .live value => ("live", flag value)
  | .state value => ("state", ofNamed value)
  | .address value => ("addr", ofOption text value)
  | .video value => ("video", ofNamed value)
  | .caps value => ("caps", ofNat value.bits)
  | .holdAllowed value => ("holdable", flag value)

def ofWorldField : WorldField → String × Document
  | .tracker tracked standing =>
    ("tracker", ofFields [("len", ofNat tracked), ("empty", flag (tracked == 0)),
      ("top", ofNat standing)])
  | .attached legs => ("attached", Document.ofList ofLeg legs)
  | .conferences current => ("confs", Document.ofList ofConference current)
  | .roles roles =>
    ("roles", Document.ofList (fun role => ofOption ofConnection (roles.holder role)) Named.all)
  | .order connections => ("order", Document.ofList ofConnection connections)
  | .device airplane satellite data =>
    ("device", ofFields [("airplane", flag airplane), ("satellite", flag satellite),
      ("data", ofOption ofPhone data)])

def labelOf (label : Document) : String := label.text?.getD ""

def ofReport (report : Report) : Document :=
  let part (key : String) (lines : List Document) :=
    if lines.isEmpty then [] else [(key, list lines)]
  let group (key : String) (shown : List (String × Document)) :=
    if shown.isEmpty then [] else [(key, ofFields shown)]
  ofFields
    ([("r", ofOutcome report.outcome)] ++
      part "log" (report.log.map ofLine) ++
      part "bus" (report.notices.map ofNotice) ++
      part "done" (report.finished.map fun entry =>
        list [ofNat entry.1, ofOutcome entry.2]) ++
      group "conns" (report.connections.map fun entry =>
        (labelOf (ofConnection entry.1), ofFields (entry.2.map ofConnectionField))) ++
      group "confs" (report.conferences.map fun entry =>
        (labelOf (ofConference entry.1), ofFields (entry.2.map ofConferenceField))) ++
      group "world" (report.world.map ofWorldField) ++
      (report.clock.map fun clock => ("t", ofNat clock)).toList)

def minutes (hasExchange : Bool) (sheet : Document) : Document :=
  match ofSheet hasExchange sheet with
  | .error error => ofError error
  | .ok session =>
    ofOption (Document.ofList ofReport) (session.run {} ((sheet.itemsAt "steps").map step))

end Switchboard.Rehearsal
