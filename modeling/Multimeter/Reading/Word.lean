import Multimeter.Coded
/-!
# Word codes

Counts from `0x700000` upwards are not numbers but words, such as a blank display, dashes while a
value settles, an overload or a fault. Each word has its text and a severity, which decides how it
is reported.
-/

namespace Multimeter

/-- A word that a display shows instead of a number. -/
inductive WordCode where
  | space
  | full
  | beep
  | autoPowerOff
  | backlight
  | hazard
  | on
  | off
  | reset
  | start
  | view
  | pause
  | fuse
  | probe
  | definition
  | clear
  | er
  | er1
  | er2
  | er3
  /-- Five dashes. -/
  | dash
  /-- One dash. -/
  | dash1
  | test
  /-- Two dashes. -/
  | dash2
  | battery
  | displayLight
  | noise
  | filter
  | pass
  | null
  | range0To20
  | range4To20
  | rate
  | save
  | load
  | yes
  | send
  | autoHold
  | auto
  | continuity
  | calibration
  | version
  | overload
  | batteryFull
  | batteryHalf
  | lo
  | hi
  | digits
  | ready
  | disconnect
  | outF
  | overloadA
  | overloadV
  | overloadVa
  | bad
  | temperature
  deriving DecidableEq, Repr

/-- The wire number and the name of each word. -/
def WordCode.entry : WordCode → UInt32 × String
  | .space => (0x700000, "Space")
  | .full => (0x700001, "Full")
  | .beep => (0x700002, "Beep")
  | .autoPowerOff => (0x700003, "AutoPowerOff")
  | .backlight => (0x700004, "Backlight")
  | .hazard => (0x700005, "Hazard")
  | .on => (0x700006, "On")
  | .off => (0x700007, "Off")
  | .reset => (0x700008, "Reset")
  | .start => (0x700009, "Start")
  | .view => (0x70000a, "View")
  | .pause => (0x70000b, "Pause")
  | .fuse => (0x70000c, "Fuse")
  | .probe => (0x70000d, "Probe")
  | .definition => (0x70000e, "Definition")
  | .clear => (0x70000f, "Clear")
  | .er => (0x700010, "Er")
  | .er1 => (0x700011, "Er1")
  | .er2 => (0x700012, "Er2")
  | .er3 => (0x700013, "Er3")
  | .dash => (0x700014, "Dash")
  | .dash1 => (0x700015, "Dash1")
  | .test => (0x700016, "Test")
  | .dash2 => (0x700017, "Dash2")
  | .battery => (0x700018, "Battery")
  | .displayLight => (0x700019, "DisplayLight")
  | .noise => (0x70001a, "Noise")
  | .filter => (0x70001b, "Filter")
  | .pass => (0x70001c, "Pass")
  | .null => (0x70001d, "Null")
  | .range0To20 => (0x70001e, "Range0To20")
  | .range4To20 => (0x70001f, "Range4To20")
  | .rate => (0x700020, "Rate")
  | .save => (0x700021, "Save")
  | .load => (0x700022, "Load")
  | .yes => (0x700023, "Yes")
  | .send => (0x700024, "Send")
  | .autoHold => (0x700025, "AutoHold")
  | .auto => (0x700026, "Auto")
  | .continuity => (0x700027, "Continuity")
  | .calibration => (0x700028, "Calibration")
  | .version => (0x700029, "Version")
  | .overload => (0x70002a, "Overload")
  | .batteryFull => (0x70002b, "BatteryFull")
  | .batteryHalf => (0x70002c, "BatteryHalf")
  | .lo => (0x70002d, "Lo")
  | .hi => (0x70002e, "Hi")
  | .digits => (0x70002f, "Digits")
  | .ready => (0x700030, "Ready")
  | .disconnect => (0x700031, "Disconnect")
  | .outF => (0x700032, "OutF")
  | .overloadA => (0x700033, "OverloadA")
  | .overloadV => (0x700034, "OverloadV")
  | .overloadVa => (0x700035, "OverloadVa")
  | .bad => (0x700036, "Bad")
  | .temperature => (0x700037, "Temperature")

instance : Code WordCode UInt32 where
  all := [.space, .full, .beep, .autoPowerOff, .backlight, .hazard, .on, .off, .reset, .start,
    .view, .pause, .fuse, .probe, .definition, .clear, .er, .er1, .er2, .er3, .dash, .dash1, .test,
    .dash2, .battery, .displayLight, .noise, .filter, .pass, .null, .range0To20, .range4To20, .rate,
    .save, .load, .yes, .send, .autoHold, .auto, .continuity, .calibration, .version, .overload,
    .batteryFull, .batteryHalf, .lo, .hi, .digits, .ready, .disconnect, .outF, .overloadA,
    .overloadV, .overloadVa, .bad, .temperature]
  raw code := code.entry.1
  name code := code.entry.2
  find?_raw code := by cases code <;> rfl

/-- The word as the meter shows it. -/
def WordCode.text : WordCode → String
  | .space => ""
  | .full => "Full"
  | .beep => "Beep"
  | .autoPowerOff => "Auto Power-Off"
  | .backlight => "Backlight"
  | .hazard => "Hazard"
  | .on => "On"
  | .off => "Off"
  | .reset => "Reset"
  | .start => "Start"
  | .view => "View"
  | .pause => "Pause"
  | .fuse => "Fuse"
  | .probe => "Probe"
  | .definition => "Definition"
  | .clear => "Clr"
  | .er => "Er"
  | .er1 => "Er1"
  | .er2 => "Er2"
  | .er3 => "Er3"
  | .dash => "-----"
  | .dash1 => "-"
  | .test => "Test"
  | .dash2 => "--"
  | .battery => "Battery"
  | .displayLight => "diSLt"
  | .noise => "Noise"
  | .filter => "Filter"
  | .pass => "PASS"
  | .null => "null"
  | .range0To20 => "0 - 20"
  | .range4To20 => "4 - 20"
  | .rate => "Rate"
  | .save => "Save"
  | .load => "Load"
  | .yes => "Yes"
  | .send => "Send"
  | .autoHold => "Auto Hold"
  | .auto => "Auto"
  | .continuity => "Continuity"
  | .calibration => "CAL"
  | .version => "Version"
  | .overload => "OL"
  | .batteryFull => "FULL"
  | .batteryHalf => "HALF"
  | .lo => "Lo"
  | .hi => "Hi"
  | .digits => "Digits"
  | .ready => "Ready"
  | .disconnect => "dISC"
  | .outF => "outF"
  | .overloadA => "OLA"
  | .overloadV => "OLV"
  | .overloadVa => "OLVA"
  | .bad => "BAD"
  | .temperature => "TEMP"

/-- How loudly a word is reported. -/
inductive Severity where
  /-- A blank or dashed display: nothing to report. -/
  | silent
  /-- A notice. -/
  | warning
  /-- The meter reports a fault. -/
  | error
  deriving DecidableEq, Repr

/-- The name of a severity. -/
def Severity.name : Severity → String
  | .silent => "Silent"
  | .warning => "Warning"
  | .error => "Error"

/-- Dashes stand in for a number while it settles. -/
def WordCode.isDash : WordCode → Bool
  | .dash | .dash1 | .dash2 => true
  | _ => false

/-- How loudly the word is reported. -/
def WordCode.severity : WordCode → Severity
  | .battery | .hazard | .fuse | .probe | .er | .er1 | .er2 | .er3 => .error
  | .space | .dash | .dash1 | .dash2 => .silent
  | _ => .warning

/-- A word of the list, or a count in the range of words that stands for none of them. -/
abbrev Word := Coded WordCode UInt32

namespace Word

/-- Counts from here on are words. -/
def threshold : Int32 := 0x700000

/-- The word that a count stands for, `none` if it is a number. -/
def ofCount? (count : Int32) : Option Word :=
  if threshold ≤ count then some (Coded.ofRaw count.toUInt32) else none

/-- The word as the meter shows it. -/
def text : Word → String
  | .known code => code.text
  | .unknown _ => "N/A"

/-- Dashes stand in for a number while it settles. -/
def isDash : Word → Bool
  | .known code => code.isDash
  | .unknown _ => false

/-- How loudly the word is reported; an unknown one is a notice. -/
def severity : Word → Severity
  | .known code => code.severity
  | .unknown _ => .warning

end Word

end Multimeter
