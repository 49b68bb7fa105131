import Seph.Packet.Error

/-!
# Packet tags

The kinds of packet that the firmware and the bridge exchange. Each tag has one number
(`ofCode?_code`), and no two tags share one (`code_inj`).
-/

namespace Seph

/-- The kind of a packet. -/
inductive Tag
  | buttonPush
  | finger
  | displayProcessed
  | ticker
  | usbEvent
  | usbTransfer
  | capdu
  | mcu
  | bleSend
  | bleRadioPower
  | powerOff
  | usbConfig
  | usbPrepare
  | requestStatus
  | rapdu
  | playTune
  | printcStatus
  | generalStatus
  | displayStatus
  | printfStatus
  | displayRawStatus
  | nbglRect
  | nbglRefresh
  | nbglLine
  | nbglImage
  | nbglImageFile
  | nbglImageRle
  deriving DecidableEq, Repr

namespace Tag

/-- Every tag, by increasing number. -/
def all : List Tag :=
  [buttonPush, finger, displayProcessed, ticker, usbEvent, usbTransfer, capdu, mcu, bleSend,
   bleRadioPower, powerOff, usbConfig, usbPrepare, requestStatus, rapdu, playTune, printcStatus,
   generalStatus, displayStatus, printfStatus, displayRawStatus, nbglRect, nbglRefresh, nbglLine,
   nbglImage, nbglImageFile, nbglImageRle]

def code : Tag → UInt8
  | buttonPush => 0x05
  | finger => 0x0C
  | displayProcessed => 0x0D
  | ticker => 0x0E
  | usbEvent => 0x0F
  | usbTransfer => 0x10
  | capdu => 0x16
  | mcu => 0x31
  | bleSend => 0x38
  | bleRadioPower => 0x44
  | powerOff => 0x46
  | usbConfig => 0x4F
  | usbPrepare => 0x50
  | requestStatus => 0x52
  | rapdu => 0x53
  | playTune => 0x56
  | printcStatus => 0x5F
  | generalStatus => 0x60
  | displayStatus => 0x65
  | printfStatus => 0x66
  | displayRawStatus => 0x69
  | nbglRect => 0xFA
  | nbglRefresh => 0xFB
  | nbglLine => 0xFC
  | nbglImage => 0xFD
  | nbglImageFile => 0xFE
  | nbglImageRle => 0xFF

/-- The name of a tag, as error texts write it. -/
def name : Tag → String
  | buttonPush => "ButtonPushEvent"
  | finger => "FingerEvent"
  | displayProcessed => "DisplayProcessedEvent"
  | ticker => "TickerEvent"
  | usbEvent => "UsbEvent"
  | usbTransfer => "UsbEpXferEvent"
  | capdu => "CapduEvent"
  | mcu => "Mcu"
  | bleSend => "BleSend"
  | bleRadioPower => "BleRadioPower"
  | powerOff => "SePowerOff"
  | usbConfig => "UsbConfig"
  | usbPrepare => "UsbEpPrepare"
  | requestStatus => "RequestStatus"
  | rapdu => "Rapdu"
  | playTune => "PlayTune"
  | printcStatus => "PrintcStatus"
  | generalStatus => "GeneralStatus"
  | displayStatus => "ScreenDisplayStatus"
  | printfStatus => "PrintfStatus"
  | displayRawStatus => "ScreenDisplayRawStatus"
  | nbglRect => "NbglDrawRect"
  | nbglRefresh => "NbglRefresh"
  | nbglLine => "NbglDrawLine"
  | nbglImage => "NbglDrawImage"
  | nbglImageFile => "NbglDrawImageFile"
  | nbglImageRle => "NbglDrawImageRle"

def ofCode? (b : UInt8) : Option Tag := all.find? fun t => t.code == b

/-- The tag with a given number, or the error that names the number. -/
def ofCode (b : UInt8) : Except WireError Tag :=
  match ofCode? b with
  | some t => .ok t
  | none => .error (.unknownTag b)

/-- Events go to the firmware; their numbers are below `0x20`. -/
def isEvent (t : Tag) : Bool := t.code < 0x20

/-- Drawing commands of the NBGL library. -/
def isNbgl (t : Tag) : Bool := nbglRect.code ≤ t.code

theorem mem_all (t : Tag) : t ∈ all := by cases t <;> decide

@[simp] theorem ofCode?_code (t : Tag) : ofCode? t.code = some t := by cases t <;> rfl

theorem code_of_ofCode? {b : UInt8} {t : Tag} (h : ofCode? b = some t) : t.code = b := by
  have := List.find?_some h
  simpa using this

theorem code_inj {s t : Tag} (h : s.code = t.code) : s = t := by
  have := ofCode?_code s
  rw [h, ofCode?_code] at this
  exact (Option.some.inj this).symm

end Tag
end Seph
