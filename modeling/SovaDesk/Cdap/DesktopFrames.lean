/-
This file settles which binary desktop frames reach the browser they are for.

A desktop session gets an ID from the ID of its device and the time it starts at. The agent
puts the ID before each frame, in a header of fixed size that it fills with zeros, and the
server reads it up to the first zero to find the session. An ID that is longer than the
header is cut off by the agent, and what is left of it is the ID of no session, or of
another one; and two sessions of a device that start at one time have one ID, under which
only the later one is found.
-/

import Mathlib
import SovaDesk.Cdap.Gateway
import SovaDesk.Lib.System
import SovaDesk.Lib.Text

namespace SovaDesk.Cdap.DesktopFrames

open Transition

/-! ### The agent -/

/-- The bytes of a Go string. -/
def textBytes (text : String) : Bytes := text.toByteArray.data.toList

/-- The header of a frame: the ID, cut off at the size of the header or filled with zeros. -/
def header (sessionID : String) : Bytes :=
  let id := textBytes sessionID
  let id := if id.length > frameHeaderSize then id.take frameHeaderSize else id
  id ++ List.replicate (frameHeaderSize - id.length) 0

def sendDesktopBinaryFrame (sessionID : String) (jpeg : Bytes) : Bytes :=
  header sessionID ++ jpeg

def sendDesktopVideoFrame (sessionID : String) (au : Bytes) (keyframe : Bool) : Bytes :=
  header sessionID ++ ((if keyframe then 1 else 0) :: au)

/-- What the agent sends. -/
inductive AgentFrame
  | image (jpeg : Bytes)
  | video (au : Bytes) (keyframe : Bool)

def AgentFrame.data (sessionID : String) : AgentFrame → Bytes
  | .image jpeg => sendDesktopBinaryFrame sessionID jpeg
  | .video au keyframe => sendDesktopVideoFrame sessionID au keyframe

/-- What is for the browser: an image, or the flags and the payload of a video frame. -/
def AgentFrame.payload : AgentFrame → Bytes
  | .image jpeg => jpeg
  | .video au keyframe => (if keyframe then 1 else 0) :: au

theorem AgentFrame.data_eq (sessionID : String) (frame : AgentFrame) :
    frame.data sessionID = header sessionID ++ frame.payload := by
  cases frame <;> rfl

/-! ### The sessions -/

def isHexDigit (c : Char) : Bool :=
  c.isDigit || (decide ('a' ≤ c) && decide (c ≤ 'f')) || (decide ('A' ≤ c) && decide (c ≤ 'F'))

def isPeerIDChar (c : Char) : Bool := c.isAlphanum || c == '_' || c == '-'

/-- A prefix and a number of hexadecimal digits after it. -/
def isHexID (lead : String) (least most : Nat) (id : String) : Bool :=
  let digits := id.toList.drop lead.length
  lead.toList.isPrefixOf id.toList && digits.all isHexDigit &&
    decide (least ≤ digits.length) && decide (digits.length ≤ most)

def cdapDeviceIDRegexp (id : String) : Bool :=
  isHexID "CDAP-" 6 16 id || isHexID "BD-" 16 32 id ||
    (id.toList.all isPeerIDChar && decide (1 ≤ id.length) && decide (id.length ≤ 64))

/-- The fields of a `DesktopSession` that the frames depend on, with the time of its start. -/
structure DesktopSession where
  deviceID : String
  deviceConn : Nat
  nanos : Int
  browser : Nat
  deriving DecidableEq

def DesktopSession.id (session : DesktopSession) : String :=
  "desk_" ++ session.deviceID ++ "_" ++ toString session.nanos

/-- What happened to the sessions, for the statements only. -/
inductive Event
  | started (session : DesktopSession)
  | ended (sessionID : String)
  deriving DecidableEq

def Event.sessionID : Event → String
  | .started session => session.id
  | .ended sessionID => sessionID

def Event.browser : Event → Option Nat
  | .started session => some session.browser
  | .ended _ => none

/-- The gateway, the browsers of its desktop sessions, and what happened, the latest first. -/
structure Desktops where
  gateway : Gateway
  browsers : Table String Nat
  log : List Event

/-- A session starts, or one is ended under an ID. -/
inductive Label
  | start (session : DesktopSession)
  | finish (sessionID reason : String)

namespace Desktops

/-- `StartDesktopSession` of a device that is connected and supports it. -/
def startDesktopSession (s : Desktops) (session : DesktopSession) : Desktops where
  gateway := { s.gateway with
    sessions := Function.update s.gateway.sessions .desktop
      ((s.gateway.sessions .desktop).insert session.id
        { id := session.id, deviceID := session.deviceID, deviceConn := session.deviceConn
          closed := false }) }
  browsers := s.browsers.insert session.id session.browser
  log := .started session :: s.log

def finish (s : Desktops) (sessionID reason : String) : Desktops where
  gateway := (endDesktopSession s.gateway sessionID reason).1
  browsers := s.browsers.erase sessionID
  log := .ended sessionID :: s.log

/-- The browser that something is written to, and what it is sent. -/
def delivery (s : Desktops) : Effect → Option (Nat × Bytes)
  | .toBrowser .desktop sessionID (.binary payload) =>
    (s.browsers.lookup sessionID).map fun browser => (browser, payload)
  | _ => none

/-- What the browsers are sent for a binary frame. -/
def deliveries (s : Desktops) (data : Bytes) : List (Nat × Bytes) :=
  (handleDesktopFrameBinary s.gateway data).filterMap s.delivery

end Desktops

def newDesktops : Desktops where
  gateway := { sessions := fun _ => ∅, pendingCommands := ∅ }
  browsers := ∅
  log := []

/-- The desktop sessions of a gateway as a transition system. The devices are admitted, and every
browser has one session. -/
def desktops : System Desktops Label where
  start s := s = newDesktops
  step s
  | .start session =>
    if cdapDeviceIDRegexp session.deviceID ∧ session.browser ∉ s.log.filterMap Event.browser then
      some (s.startDesktopSession session)
    else none
  | .finish sessionID reason => some (s.finish sessionID reason)

/-! ### The property -/

/-- A frame for a session is parsed to its ID, and what comes of it is its payload, in the browser
of the session. -/
structure Arrives (s : Desktops) (session : DesktopSession) (frame : AgentFrame) : Prop where
  parsed : headerSessionID (frame.data session.id) = some session.id
  delivered : s.deliveries (frame.data session.id) = [(session.browser, frame.payload)]

/-- The condition: the ID fits into the header, the frame is no empty image, and nothing has
happened under the ID since the session started. -/
structure Fits (s : Desktops) (session : DesktopSession) (frame : AgentFrame) : Prop where
  length : (textBytes session.id).length ≤ frameHeaderSize
  nonempty : frame.payload ≠ []
  latest : s.log.find? (·.sessionID == session.id) = some (.started session)

/-! ### Texts and their bytes -/

theorem textBytes_ofList_cons (c : Char) (rest : List Char) :
    textBytes (String.ofList (c :: rest)) =
      String.utf8EncodeChar c ++ textBytes (String.ofList rest) := by
  unfold textBytes
  rw [String.toByteArray_ofList, String.toByteArray_ofList, List.utf8Encode_cons,
    List.utf8Encode_singleton, ByteArray.data_append, Array.toList_append, List.data_toByteArray]

/-- A text is read back from its bytes. -/
theorem fromUTF8?_textBytes (text : String) :
    String.fromUTF8? ⟨(textBytes text).toArray⟩ = some text := by
  have same : (⟨(textBytes text).toArray⟩ : ByteArray) = text.toByteArray := by
    rw [textBytes, Array.toArray_toList]
  rw [same, String.fromUTF8?, dif_pos text.isValidUTF8]
  rfl

/-- The bytes of a text are those it was read from. -/
theorem textBytes_of_fromUTF8? {bytes : Bytes} {text : String}
    (read : String.fromUTF8? ⟨bytes.toArray⟩ = some text) : textBytes text = bytes := by
  unfold String.fromUTF8? at read
  split at read
  · cases read
    rfl
  · cases read

/-- A character that is written as one byte, which is not zero. -/
def isPlain (c : Char) : Bool := decide (0 < c.toNat) && decide (c.toNat < 128)

theorem zero_notMem_textBytes : ∀ {letters : List Char}, letters.all isPlain = true →
    0 ∉ textBytes (String.ofList letters)
  | [], _ => List.not_mem_nil
  | c :: rest, plain => by
    obtain ⟨isPlain, others⟩ := Bool.and_eq_true_iff.mp plain
    obtain ⟨positive, small⟩ := Bool.and_eq_true_iff.mp isPlain
    have positive := of_decide_eq_true positive
    have small := of_decide_eq_true small
    rw [textBytes_ofList_cons, List.mem_append]
    rintro (first | later)
    · have size : c.utf8Size = 1 :=
        Char.utf8Size_eq_one_iff.mpr (UInt32.le_iff_toNat_le.mpr (Nat.le_of_lt_succ small))
      rw [String.utf8EncodeChar_eq_singleton size, List.mem_singleton] at first
      have value := congrArg UInt8.toNat first
      have byte : c.toNat < 2 ^ 8 := small.trans (by decide)
      rw [UInt32.toNat_toUInt8] at value
      exact absurd (value.trans (Nat.mod_eq_of_lt byte)) positive.ne
    · exact zero_notMem_textBytes others later

/-- What the server reads in a header whose first bytes are those of a text. -/
theorem headerSessionID_header {id read : String} (payload : Bytes)
    (bytes : (textBytes id).take frameHeaderSize = textBytes read)
    (plain : 0 ∉ textBytes read) : headerSessionID (header id ++ payload) = some read := by
  have cut : header id =
      textBytes read ++ List.replicate (frameHeaderSize - (textBytes read).length) 0 := by
    unfold header
    dsimp only
    rw [← bytes]
    split
    · rfl
    · next short => rw [List.take_of_length_le (Nat.le_of_not_lt short)]
  have short : (textBytes read).length ≤ frameHeaderSize := by
    rw [← bytes]
    exact List.length_take_le _ _
  have whole : (header id).length = frameHeaderSize := by
    rw [cut, List.length_append, List.length_replicate]
    exact Nat.add_sub_of_le short
  have ends : (header id).takeWhile (· ≠ 0) = textBytes read := by
    rw [cut, List.takeWhile_append_of_pos fun byte member => ?_]
    · cases frameHeaderSize - (textBytes read).length with
      | zero => exact List.append_nil _
      | succ count => exact List.append_nil _
    · exact decide_eq_true fun zero => plain (zero ▸ member)
  unfold headerSessionID
  rw [List.take_append_of_le_length whole.ge, List.take_of_length_le whole.le, ends,
    fromUTF8?_textBytes]

theorem length_header (id : String) : (header id).length = frameHeaderSize := by
  unfold header
  dsimp only
  rw [List.length_append, List.length_replicate]
  split
  · next long => rw [List.length_take, min_eq_left long.le, Nat.sub_self, Nat.add_zero]
  · next short => exact Nat.add_sub_of_le (Nat.le_of_not_lt short)

/-- Whatever the server reads fits into the header. -/
theorem length_headerSessionID {data : Bytes} {read : String}
    (parsed : headerSessionID data = some read) : (textBytes read).length ≤ frameHeaderSize := by
  rw [textBytes_of_fromUTF8? parsed]
  exact (List.takeWhile_sublist _).length_le.trans (List.length_take_le _ _)

/-! ### The IDs of sessions -/

variable {c : Char}

theorem isPlain_of_mem {low high : Char} (least : low ≤ c) (most : c ≤ high)
    (positive : 0 < low.toNat) (small : high.toNat < 128) : isPlain c = true := by
  have least := Char.le_def.mp least
  have most := Char.le_def.mp most
  rw [UInt32.le_iff_toNat_le] at least most
  exact Bool.and_eq_true_iff.mpr ⟨decide_eq_true (positive.trans_le least),
    decide_eq_true (Nat.lt_of_le_of_lt most small)⟩

theorem isPlain_of_isDigit (digit : c.isDigit = true) : isPlain c = true := by
  obtain ⟨least, most⟩ := Bool.and_eq_true_iff.mp digit
  exact isPlain_of_mem (Char.le_def.mpr (of_decide_eq_true least))
    (Char.le_def.mpr (of_decide_eq_true most)) (by decide) (by decide)

theorem isPlain_of_isAlphanum (letter : c.isAlphanum = true) : isPlain c = true := by
  rcases Bool.or_eq_true_iff.mp letter with alpha | digit
  · rcases Bool.or_eq_true_iff.mp alpha with upper | lower
    · obtain ⟨least, most⟩ := of_decide_eq_true upper
      exact isPlain_of_mem (Char.le_def.mpr least) (Char.le_def.mpr most) (by decide) (by decide)
    · obtain ⟨least, most⟩ := Bool.and_eq_true_iff.mp lower
      exact isPlain_of_mem (Char.le_def.mpr (of_decide_eq_true least))
        (Char.le_def.mpr (of_decide_eq_true most)) (by decide) (by decide)
  · exact isPlain_of_isDigit digit

theorem isPlain_of_isPeerIDChar (allowed : isPeerIDChar c = true) :
    isPlain c = true := by
  unfold isPeerIDChar at allowed
  rw [Bool.or_eq_true, Bool.or_eq_true, beq_iff_eq, beq_iff_eq] at allowed
  rcases allowed with (letter | rfl) | rfl
  · exact isPlain_of_isAlphanum letter
  · decide
  · decide

theorem isPlain_of_isHexDigit (allowed : isHexDigit c = true) : isPlain c = true := by
  unfold isHexDigit at allowed
  rw [Bool.or_eq_true, Bool.or_eq_true, Bool.and_eq_true, Bool.and_eq_true] at allowed
  rcases allowed with (digit | ⟨least, most⟩) | ⟨least, most⟩
  · exact isPlain_of_isDigit digit
  · exact isPlain_of_mem (of_decide_eq_true least) (of_decide_eq_true most) (by decide) (by decide)
  · exact isPlain_of_mem (of_decide_eq_true least) (of_decide_eq_true most) (by decide) (by decide)

theorem plain_of_isHexID {lead : String} {least most : Nat} {id : String}
    (leadPlain : lead.toList.all isPlain = true) (isHex : isHexID lead least most id = true) :
    id.toList.all isPlain = true := by
  unfold isHexID at isHex
  dsimp only at isHex
  rw [Bool.and_eq_true, Bool.and_eq_true, Bool.and_eq_true] at isHex
  obtain ⟨⟨⟨isPrefix, digits⟩, _⟩, _⟩ := isHex
  obtain ⟨rest, whole⟩ := List.isPrefixOf_iff_prefix.mp isPrefix
  rw [← whole, ← String.length_toList, List.drop_left] at digits
  rw [← whole, List.all_append, leadPlain, Bool.true_and]
  exact List.all_eq_true.mpr fun c member =>
    isPlain_of_isHexDigit (List.all_eq_true.mp digits c member)

theorem plain_of_cdapDeviceIDRegexp {id : String} (admitted : cdapDeviceIDRegexp id = true) :
    id.toList.all isPlain = true := by
  unfold cdapDeviceIDRegexp at admitted
  rw [Bool.or_eq_true, Bool.or_eq_true] at admitted
  rcases admitted with (cdap | bd) | peer
  · exact plain_of_isHexID (by decide) cdap
  · exact plain_of_isHexID (by decide) bd
  · rw [Bool.and_eq_true, Bool.and_eq_true] at peer
    exact List.all_eq_true.mpr fun c member =>
      isPlain_of_isPeerIDChar (List.all_eq_true.mp peer.1.1 c member)

theorem plain_of_nat (number : Nat) : (toString number).toList.all isPlain = true := by
  have digits : (toString number).toList = Nat.toDigits 10 number := Nat.toList_repr
  rw [digits]
  exact List.all_eq_true.mpr fun c member =>
    isPlain_of_isDigit (Nat.isDigit_of_mem_toDigits (by decide) (by decide) member)

theorem plain_of_int (number : Int) : (toString number).toList.all isPlain = true := by
  cases number with
  | ofNat number => exact plain_of_nat number
  | negSucc number =>
    have text : (toString (Int.negSucc number)).toList = '-' :: (toString (number + 1)).toList :=
      String.toList_append
    rw [text]
    exact plain_of_nat (number + 1)

variable {session : DesktopSession}

/-- The ID of a session of an admitted device has no zero byte. -/
theorem zero_notMem_id
    (admitted : cdapDeviceIDRegexp session.deviceID = true) : 0 ∉ textBytes session.id := by
  have plain : session.id.toList.all isPlain = true := by
    unfold DesktopSession.id
    rw [String.toList_append, String.toList_append, String.toList_append, List.all_append,
      List.all_append, List.all_append, plain_of_cdapDeviceIDRegexp admitted, plain_of_int]
    decide
  rw [← String.ofList_toList (s := session.id)]
  exact zero_notMem_textBytes plain

/-! ### What is stored -/

/-- What was the last to happen under an ID. -/
def Desktops.last (s : Desktops) (sessionID : String) : Option Event :=
  s.log.find? (·.sessionID == sessionID)

/-- The last to happen under an ID says which session is stored, and every browser has one session
of an admitted device. -/
structure Sound (s : Desktops) : Prop where
  stored : ∀ session, s.last session.id = some (.started session) →
    (s.gateway.sessions .desktop).lookup session.id =
        some ⟨session.id, session.deviceID, session.deviceConn, false⟩ ∧
      s.browsers.lookup session.id = some session.browser
  absent : ∀ id, (∀ session, s.last id ≠ some (.started session)) →
    (s.gateway.sessions .desktop).lookup id = none
  single : ∀ session other, .started session ∈ s.log → .started other ∈ s.log →
    session.browser = other.browser → session = other
  admitted : ∀ session, .started session ∈ s.log → cdapDeviceIDRegexp session.deviceID = true

section sound

variable {s : Desktops}

theorem last_cons (s : Desktops) (event : Event) (id : String) :
    Desktops.last { s with log := event :: s.log } id =
      if event.sessionID = id then some event else s.last id := by
  unfold Desktops.last
  rw [List.find?_cons]
  by_cases same : event.sessionID = id
  · rw [if_pos same, beq_iff_eq.mpr same]
  · rw [if_neg same, beq_eq_false_iff_ne.mpr same]

theorem Sound.start (sound : Sound s) (admitted : cdapDeviceIDRegexp session.deviceID = true)
    (fresh : session.browser ∉ s.log.filterMap Event.browser) :
    Sound (s.startDesktopSession session) := by
  have last (id : String) : (s.startDesktopSession session).last id =
      if session.id = id then some (.started session) else s.last id :=
    last_cons s (.started session) id
  have lookup (id : String) :
      ((s.startDesktopSession session).gateway.sessions .desktop).lookup id =
      if id = session.id then some ⟨session.id, session.deviceID, session.deviceConn, false⟩
      else (s.gateway.sessions .desktop).lookup id := by
    unfold Desktops.startDesktopSession
    dsimp only
    rw [Function.update_self, Table.lookup_insert_if]
  have unused {other : DesktopSession} (started : .started other ∈ s.log) :
      session.browser ≠ other.browser := fun same =>
    fresh (same ▸ List.mem_filterMap.mpr ⟨.started other, started, rfl⟩)
  constructor
  · intro other isLast
    rw [last] at isLast
    rw [lookup]
    split at isLast
    · next same =>
      cases isLast
      exact ⟨if_pos rfl, AList.lookup_insert _⟩
    · next different =>
      have different := Ne.symm different
      rw [if_neg different]
      exact ⟨(sound.stored other isLast).1,
        (AList.lookup_insert_ne different).trans (sound.stored other isLast).2⟩
  · intro id unstarted
    have different : id ≠ session.id := fun same =>
      unstarted session ((last id).trans (if_pos same.symm))
    rw [lookup, if_neg different]
    refine sound.absent id fun other isLast => unstarted other ?_
    exact (last id).trans ((if_neg different.symm).trans isLast)
  · intro first second started startedToo same
    rcases List.mem_cons.mp started with isFirst | older <;>
      rcases List.mem_cons.mp startedToo with isSecond | olderToo
    · cases isFirst
      cases isSecond
      rfl
    · cases isFirst
      exact absurd same (unused olderToo)
    · cases isSecond
      exact absurd same.symm (unused older)
    · exact sound.single first second older olderToo same
  · intro other started
    rcases List.mem_cons.mp started with isNew | older
    · cases isNew
      exact admitted
    · exact sound.admitted other older

theorem Sound.finish (sound : Sound s) (sessionID reason : String) :
    Sound (s.finish sessionID reason) := by
  have last (id : String) : (s.finish sessionID reason).last id =
      if sessionID = id then some (.ended sessionID) else s.last id :=
    last_cons s (.ended sessionID) id
  have lookup (id : String) : ((s.finish sessionID reason).gateway.sessions .desktop).lookup id =
      if id = sessionID then none else (s.gateway.sessions .desktop).lookup id := by
    unfold Desktops.finish endDesktopSession endSession Gateway.removeSession
    dsimp only
    split
    · next none =>
      split
      · next same => exact same ▸ none
      · rfl
    · dsimp only
      rw [Function.update_self, Table.lookup_erase_if]
  have started {other : DesktopSession}
      (member : .started other ∈ (s.finish sessionID reason).log) :
      .started other ∈ s.log := by
    rcases List.mem_cons.mp member with isEnd | older
    · cases isEnd
    · exact older
  constructor
  · intro other isLast
    rw [last] at isLast
    rw [lookup]
    split at isLast
    · cases isLast
    · next different =>
      have different := Ne.symm different
      rw [if_neg different]
      exact ⟨(sound.stored other isLast).1,
        (AList.lookup_erase_ne different).trans (sound.stored other isLast).2⟩
  · intro id unstarted
    rw [lookup]
    split
    · rfl
    · next different =>
      refine sound.absent id fun other isLast => unstarted other ?_
      exact (last id).trans ((if_neg (Ne.symm different)).trans isLast)
  · exact fun first second isFirst isSecond =>
      sound.single first second (started isFirst) (started isSecond)
  · exact fun other member => sound.admitted other (started member)

theorem sound_of_reachable (reached : Reachable desktops s) : Sound s := by
  refine reached.invariant Sound (fun s start => ?_) fun before label after sound _ taken => ?_
  · have start : s = newDesktops := start
    subst start
    exact
      { stored := fun session isLast => by cases isLast
        absent := fun _ _ => rfl
        single := fun session other started => by cases started
        admitted := fun session started => by cases started }
  · cases label with
    | start session =>
      obtain ⟨⟨admitted, fresh⟩, same⟩ := Option.ite_none_right_eq_some.mp taken
      cases same
      exact sound.start admitted fresh
    | finish sessionID reason =>
      cases taken
      exact sound.finish sessionID reason

end sound

/-! ### The condition is exact -/

section exact_condition

variable {s : Desktops} {session : DesktopSession} {frame : AgentFrame}

/-- What comes of a frame whose header is read as an ID. -/
theorem deliveries_data (s : Desktops) (frame : AgentFrame) {sent read : String}
    (parsed : headerSessionID (header sent ++ frame.payload) = some read) (isNamed : read ≠ "") :
    s.deliveries (header sent ++ frame.payload) =
      match (s.gateway.sessions .desktop).lookup read with
      | none => []
      | some stored =>
        if stored.closed = true ∨ frame.payload = [] then []
        else ((s.browsers.lookup read).map fun browser => (browser, frame.payload)).toList := by
  have whole : ¬ (header sent ++ frame.payload).length < frameHeaderSize := by
    rw [List.length_append, length_header]
    exact Nat.not_lt.mpr (Nat.le_add_right _ _)
  have rest : (header sent ++ frame.payload).drop frameHeaderSize = frame.payload := by
    rw [List.drop_append_of_le_length (length_header sent).ge,
      List.drop_of_length_le (length_header sent).le, List.nil_append]
  have isRead : named id (headerSessionID (header sent ++ frame.payload)) =
      some read := by
    rw [parsed, named]
    exact if_pos (bne_iff_ne.mpr isNamed)
  unfold Desktops.deliveries handleDesktopFrameBinary
  rw [if_neg whole, rest, isRead]
  dsimp only
  cases (s.gateway.sessions .desktop).lookup read with
  | none => rfl
  | some stored =>
    dsimp only
    by_cases closed : stored.closed = true
    · rw [if_pos closed, if_pos (.inl closed)]
      rfl
    · rw [if_neg closed]
      by_cases empty : frame.payload = []
      · rw [if_pos empty, if_pos (.inr empty)]
        rfl
      · rw [if_neg empty, if_neg (not_or.mpr ⟨closed, empty⟩)]
        rw [List.filterMap_cons, List.filterMap_nil, Desktops.delivery]
        cases s.browsers.lookup read <;> rfl

theorem id_ne_empty (session : DesktopSession) : session.id ≠ "" := by
  intro empty
  have letters := congrArg String.toList empty
  rw [DesktopSession.id, String.toList_append, String.toList_append,
    String.toList_append] at letters
  cases letters

/-- A session whose browser is sent something is the one that started last under its ID. -/
theorem Sound.last_of_delivered (sound : Sound s) (started : .started session ∈ s.log)
    {stored : Session} (isStored : (s.gateway.sessions .desktop).lookup session.id = some stored)
    (browser : s.browsers.lookup session.id = some session.browser) :
    s.last session.id = some (.started session) := by
  cases isLast : s.last session.id with
  | none =>
    have absent := sound.absent session.id fun other => isLast ▸ (Option.some_ne_none _).symm
    cases absent.symm.trans isStored
  | some event =>
    have member := List.mem_of_find?_eq_some isLast
    have named : event.sessionID = session.id :=
      eq_of_beq (List.find?_some (p := fun event : Event => event.sessionID == session.id) isLast)
    cases event with
    | started other =>
      have named : other.id = session.id := named
      have found := (sound.stored other (named ▸ isLast)).2
      rw [named] at found
      have same := Option.some.inj (browser.symm.trans found)
      rw [sound.single session other started member same]
    | ended id =>
      have absent := sound.absent session.id fun other isStart => by
        cases isLast.symm.trans isStart
      cases absent.symm.trans isStored

/-- A frame arrives exactly when the condition is met. -/
theorem arrives_iff_fits (s : Desktops) (reached : Reachable desktops s) (session : DesktopSession)
    (started : .started session ∈ s.log) (frame : AgentFrame) :
    Arrives s session frame ↔ Fits s session frame := by
  have sound := sound_of_reachable reached
  constructor
  · rintro ⟨parsed, delivered⟩
    have short := length_headerSessionID parsed
    rw [AgentFrame.data_eq] at parsed delivered
    rw [deliveries_data s frame parsed (id_ne_empty session)] at delivered
    split at delivered
    · cases delivered
    · next stored isStored =>
      split at delivered
      · cases delivered
      · next sends =>
        refine ⟨short, fun empty => sends (.inr empty), ?_⟩
        obtain ⟨browser, found, same⟩ :=
          Option.map_eq_some_iff.mp (Option.toList_eq_singleton_iff.mp delivered)
        cases (Prod.mk.inj same).1
        exact sound.last_of_delivered started isStored found
  · rintro ⟨short, nonempty, latest⟩
    obtain ⟨stored, browser⟩ := sound.stored session latest
    have parsed : headerSessionID (frame.data session.id) = some session.id := by
      rw [AgentFrame.data_eq]
      exact headerSessionID_header frame.payload (List.take_of_length_le short)
        (zero_notMem_id (sound.admitted session started))
    refine ⟨parsed, ?_⟩
    rw [AgentFrame.data_eq] at parsed ⊢
    rw [deliveries_data s frame parsed (id_ne_empty session), stored]
    dsimp only
    rw [if_neg (not_or.mpr ⟨Bool.false_ne_true, nonempty⟩), browser]
    rfl

end exact_condition

/-- Whatever bytes an agent sends, at most one browser is sent anything, and that is the rest of the
frame, for the browser of the session that started last under the ID in the header. -/
theorem deliveries_to_latest (s : Desktops) (reached : Reachable desktops s) (data : Bytes) :
    (s.deliveries data).length ≤ 1 ∧
      ∀ browser payload, (browser, payload) ∈ s.deliveries data →
        payload = data.drop frameHeaderSize ∧ payload ≠ [] ∧
          ∃ session, headerSessionID data = some session.id ∧
            s.last session.id = some (.started session) ∧ browser = session.browser := by
  have sound := sound_of_reachable reached
  refine ⟨(List.length_filterMap_le _ _).trans ?_, fun browser payload member => ?_⟩
  · unfold handleDesktopFrameBinary
    grind
  · obtain ⟨effect, sent, delivered⟩ := List.mem_filterMap.mp member
    have said : ∃ sessionID stored, headerSessionID data = some sessionID ∧
        (s.gateway.sessions .desktop).lookup sessionID = some stored ∧
          data.drop frameHeaderSize ≠ [] ∧
            effect = .toBrowser .desktop sessionID (.binary (data.drop frameHeaderSize)) := by
      unfold handleDesktopFrameBinary at sent
      have parsed : ∀ sessionID, named id (headerSessionID data) = some sessionID →
          headerSessionID data = some sessionID := fun _ isNamed =>
        (Option.filter_eq_some_iff.mp isNamed).1
      grind
    obtain ⟨sessionID, stored, parsed, isStored, nonempty, rfl⟩ := said
    obtain ⟨found, isFound, same⟩ := Option.map_eq_some_iff.mp delivered
    obtain ⟨rfl, rfl⟩ := Prod.mk.inj same
    have isLast : ∃ session, s.last sessionID = some (.started session) := by
      by_contra none_
      have absent := sound.absent sessionID fun session isStart => none_ ⟨session, isStart⟩
      cases absent.symm.trans isStored
    obtain ⟨session, isLast⟩ := isLast
    have isNamed : session.id = sessionID := eq_of_beq
      (List.find?_some (p := fun event : Event => event.sessionID == sessionID) isLast)
    subst isNamed
    exact ⟨rfl, nonempty, session, parsed, isLast,
      Option.some.inj (isFound.symm.trans (sound.stored session isLast).2)⟩

/-! ### Two sessions -/

/-- A session of a device whose ID fills the header together with the time of the session. -/
def watched : DesktopSession where
  deviceID := "BD-0123456789ABCDEF0123456789ABCDEF-lab"
  deviceConn := 0
  nanos := 1700000000000000000
  browser := 1

/-- A session of a device whose ID is that of the other one with the time of its session. -/
def intruding : DesktopSession where
  deviceID := "BD-0123456789ABCDEF0123456789ABCDEF-lab_1700000000000000000"
  deviceConn := 1
  nanos := 1700000060000000000
  browser := 2

def watchedOnly : Desktops := newDesktops.startDesktopSession watched

def bothSessions : Desktops := watchedOnly.startDesktopSession intruding

theorem step_start {s : Desktops} (admitted : cdapDeviceIDRegexp session.deviceID = true)
    (fresh : session.browser ∉ s.log.filterMap Event.browser) :
    desktops.step s (.start session) = some (s.startDesktopSession session) := by
  unfold desktops
  exact if_pos ⟨admitted, fresh⟩

theorem reachable_watchedOnly : Reachable desktops watchedOnly := by
  have taken : desktops.step newDesktops (.start watched) = some watchedOnly :=
    step_start (by decide +kernel) List.not_mem_nil
  exact .step (.start rfl) trivial taken

theorem reachable_bothSessions : Reachable desktops bothSessions := by
  have taken : desktops.step watchedOnly (.start intruding) = some bothSessions :=
    step_start (by decide +kernel) (by decide)
  exact .step reachable_watchedOnly trivial taken

/-- A frame of one session comes to the browser of the other one and not to its own. -/
theorem intruding_frame_misdirected : Reachable desktops bothSessions ∧
    .started intruding ∈ bothSessions.log ∧
    bothSessions.deliveries (AgentFrame.data intruding.id (.image [255])) = [(1, [255])] ∧
    ¬ Arrives bothSessions intruding (.image [255]) := by
  have bytes : (textBytes intruding.id).take frameHeaderSize = textBytes watched.id := by
    decide +kernel
  have plain : 0 ∉ textBytes watched.id := by decide +kernel
  have parsed := headerSessionID_header [255] bytes plain
  have delivered : bothSessions.deliveries (AgentFrame.data intruding.id (.image [255])) =
      [(1, [255])] := by
    have sent := deliveries_data bothSessions (.image [255]) parsed (id_ne_empty watched)
    exact sent.trans (by decide +kernel)
  refine ⟨reachable_bothSessions, List.mem_cons_self, delivered, fun arrives => ?_⟩
  have same := delivered.symm.trans arrives.delivered
  cases same

/-- The frames of the other one arrive. -/
theorem watched_frame_arrives :
    Arrives bothSessions watched (.video [7, 8] true) := by
  refine (arrives_iff_fits bothSessions reachable_bothSessions watched
    (List.mem_cons_of_mem _ List.mem_cons_self) _).mpr ⟨by decide +kernel, ?_, by decide +kernel⟩
  exact List.cons_ne_nil 1 [7, 8]

/-- A frame of one session that comes to the browser of the other one comes to no third one. -/
theorem deliveries_to_latest_intruding :
    (bothSessions.deliveries (AgentFrame.data intruding.id (.image [255]))).length ≤ 1 :=
  (deliveries_to_latest bothSessions reachable_bothSessions _).1

end SovaDesk.Cdap.DesktopFrames
