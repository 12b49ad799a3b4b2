import FiberApp.Foundation.OrderedMap
import FiberApp.Foundation.TiedSort
import FiberApp.Devices.ScreenSharing
import Mathlib.Data.Char
import Mathlib.Data.List.Lex

/-! The CPU parameters of `bjn_cpu_monitor.cc`. A character of a text is a byte, compared
as an unsigned number. -/

set_option autoImplicit false

namespace FiberApp.Cpu

open Foundation
open Devices.ScreenSharing (Text toDecimal)

/-- The text up to its first NUL, as `c_str` passes it on. -/
def cStr (text : Text) : Text := text.takeWhile (· ≠ '\x00')

def isWildcard (machineKey : Text) : Bool := machineKey.getLast? = some '~'

/-- `mm.compare` of the key without its last character. -/
def startsWithKey (mm machineKey : Text) : Bool :=
  mm.take (machineKey.length - 1) = machineKey.take (machineKey.length - 1)

section MachineModels

variable {ν : Type}

/-- The loop from the lower bound on. It ends at the first wildcard key. -/
def scanWildcards (mm : Text) : List (Text × ν) → Option Text
  | [] => none
  | entry :: rest =>
      if isWildcard entry.1 then (if startsWithKey mm entry.1 then some entry.1 else none)
      else scanWildcards mm rest

/-- The key that is found, `none` for the end of the map. -/
def findMatchingMachineModel (map : OrderedMap Text ν) (mm : Text) : Option Text :=
  if (map.get? (cStr mm)).isSome then some (cStr mm)
  else scanWildcards mm (map.lowerBound mm)

end MachineModels

structure VideoParams where
  encWidth : Int32
  encHeight : Int32
  encFps : Int32
  decWidth : Int32
  decHeight : Int32
  decFps : Int32
  dualStream : Bool
  deriving DecidableEq, Repr

structure CpuParams where
  machineModel : Text
  vendor : Text
  family : Int32
  model : Int32
  stepping : Int32
  vcores : Int32
  frequency : Int32
  vparams : VideoParams
  deriving DecidableEq, Repr

def makeCpuidKey (vendor : Text) (family model stepping : Int32) : Text :=
  vendor ++ ',' :: toDecimal family.toInt ++ ',' :: toDecimal model.toInt ++
    ',' :: toDecimal stepping.toInt

def CpuParams.cpuidKey (params : CpuParams) : Text :=
  makeCpuidKey params.vendor params.family params.model params.stepping

/-- `cpuParamsCompare`. -/
def cpuParamsCompare (lhs rhs : CpuParams) : Bool :=
  if lhs.vcores = rhs.vcores then lhs.frequency > rhs.frequency else lhs.vcores > rhs.vcores

/-- A `std::sort` by `cpuParamsCompare`. The standard leaves the order of elements open of
which neither comes before the other. -/
abbrev CpuParamsSort : Type := SortBy cpuParamsCompare

abbrev CpuIdResolutionsMap : Type := OrderedMap Text (List CpuParams)

structure CpuMonitor where
  defaultParam : CpuParams
  curCpus : Int32
  cpuFamily : Int32
  cpuModel : Int32
  cpuVendor : Text
  maxCpuSpeed : Int32
  curCpuSpeed : Int32
  machineModel : Text
  /-- `baseboard_machine_model_`, where the build is Windows and it is searched. -/
  baseboardMachineModel : Option Text
  useMaxFreqBasedResCap : Bool
  cpuParamsMap : OrderedMap Text CpuIdResolutionsMap

namespace CpuMonitor

def getComparisonCpuSpeed (monitor : CpuMonitor) : Int32 :=
  if monitor.useMaxFreqBasedResCap then
    if monitor.maxCpuSpeed > monitor.curCpuSpeed then monitor.maxCpuSpeed else monitor.curCpuSpeed
  else monitor.curCpuSpeed

def updateCpuParamsMap (params : CpuParams) (monitor : CpuMonitor) : CpuMonitor :=
  { monitor with
    cpuParamsMap :=
      (monitor.cpuParamsMap.insert params.machineModel .empty).modify params.machineModel
        fun resolutions =>
          (resolutions.insert params.cpuidKey []).modify params.cpuidKey (· ++ [params]) }

/-- The machine model whose parameters are looked up. -/
def findMachineModel (monitor : CpuMonitor) : Option Text :=
  let found := findMatchingMachineModel monitor.cpuParamsMap monitor.machineModel
  let baseboard := match monitor.baseboardMachineModel with
    | some model => if model = [] then none else findMatchingMachineModel monitor.cpuParamsMap model
    | none => none
  let unnamed := if (monitor.cpuParamsMap.get? []).isSome then some [] else none
  (found.or baseboard).or unnamed

/-- The stepping is ignored, and the vendor's own entry is taken for an unknown CPU. -/
def findCpuid (monitor : CpuMonitor) (resolutions : CpuIdResolutionsMap) : Option Text :=
  let exactKey := makeCpuidKey monitor.cpuVendor monitor.cpuFamily monitor.cpuModel 0
  let vendorKey := makeCpuidKey monitor.cpuVendor 0 0 0
  if (resolutions.get? exactKey).isSome then some exactKey
  else if (resolutions.get? vendorKey).isSome then some vendorKey
  else none

/-- The keys of the list that a query goes through. -/
def findSlot (monitor : CpuMonitor) : Option (Text × Text) := do
  let machineModel ← monitor.findMachineModel
  let resolutions ← monitor.cpuParamsMap.get? machineModel
  let cpuid ← monitor.findCpuid resolutions
  some (machineModel, cpuid)

def slotParams (monitor : CpuMonitor) (slot : Text × Text) : List CpuParams :=
  ((monitor.cpuParamsMap.get? slot.1).bind (·.get? slot.2)).getD []

def qualifies (monitor : CpuMonitor) (params : CpuParams) : Bool :=
  params.vcores ≤ monitor.curCpus && params.frequency ≤ monitor.getComparisonCpuSpeed

/-- The list is sorted and searched from its end, and it stays sorted. -/
def getCpuParams (std : CpuParamsSort) (monitor : CpuMonitor) : CpuParams × CpuMonitor :=
  match monitor.findSlot with
  | none => (monitor.defaultParam, monitor)
  | some slot =>
      let reversed := std.sort (monitor.slotParams slot).reverse
      ((reversed.find? monitor.qualifies).getD monitor.defaultParam,
        { monitor with
          cpuParamsMap := monitor.cpuParamsMap.modify slot.1 fun resolutions =>
            resolutions.modify slot.2 fun _ => reversed.reverse })

end CpuMonitor

/-- What changes the parameters or what they are compared with. -/
inductive CpuOperation
  | updateCpuParamsMap (params : CpuParams)
  | getCpuParams (std : CpuParamsSort)
  | curCpuUpdate (curCpuSpeed : Int32)
  | setCurCpus (curCpus : Int32)
  | setMaxFreqBasedResCapFlag (flag : Bool)

namespace CpuMonitor

def perform (monitor : CpuMonitor) : CpuOperation → CpuMonitor
  | .updateCpuParamsMap params => monitor.updateCpuParamsMap params
  | .getCpuParams std => (monitor.getCpuParams std).2
  | .curCpuUpdate curCpuSpeed => { monitor with curCpuSpeed := curCpuSpeed }
  | .setCurCpus curCpus => { monitor with curCpus := curCpus }
  | .setMaxFreqBasedResCapFlag flag => { monitor with useMaxFreqBasedResCap := flag }

end CpuMonitor

end FiberApp.Cpu
