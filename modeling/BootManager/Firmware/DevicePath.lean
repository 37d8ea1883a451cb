import BootManager.Volume.Classify

/-!
# Device paths

The firmware names a device by the nodes on the way to it.
-/

namespace BootManager.Firmware

/-- A connection that devices hang on. -/
inductive Connection where
  | usb
  | usbClass
  | fireWire
  | fibreChannel
  | scsi
  | sata
  | nvme
  deriving DecidableEq, Repr

/-- What a node of a device path stands for. -/
inductive NodeKind where
  | pci
  | acpi
  | connection (connection : Connection)
  | cdRom
  /-- A partition with the type of its signature, and the signature. -/
  | hardDrive (signatureType : Nat) (signature : PartitionSignature)
  | vendor (guid : Guid) (data : Bytes)
  | filePath (text : String)
  /-- A node that is only known by its numbers and its data. -/
  | raw (type subtype : Nat) (data : Bytes)
  deriving DecidableEq, Repr

/-- A node of a device path; `id` tells nodes of one kind apart. -/
structure DeviceNode where
  kind : NodeKind
  id : Nat
  deriving DecidableEq, Repr

namespace NodeKind

/-- The type of nodes for connections. -/
def messagingType : Nat := 3

/-- The type of nodes for media. -/
def mediaType : Nat := 4

/-- Whether a node stands for a connection. -/
def isMessaging : NodeKind → Bool
  | connection _ => true
  | raw type _ _ => type == messagingType
  | _ => false

/-- The node for a connection. -/
def ofConnection : Connection → PathNode
  | .usb => .usb
  | .usbClass => .usbClass
  | .fireWire => .fireWire
  | .fibreChannel => .fibreChannel
  | _ => .otherMessaging

/-- The connection of a subtype. -/
def ofMessagingSubtype : Nat → PathNode
  | 3 => .fibreChannel
  | 4 => .fireWire
  | 5 => .usb
  | 15 => .usbClass
  | _ => .otherMessaging

/-- How many bytes the node of a partition has after its head. -/
def hardDriveSize : Nat := 38

/-- The signature in the data of a node for a partition. -/
def signatureOfData (data : Bytes) : PartitionSignature :=
  let signature : Bytes := (data.drop 20).take 16
  match (data.drop 37).head? with
  | some 1 => .mbr (UInt32.ofNat (Bytes.toNat (signature.take 4)))
  | some 2 => .guid (Guid.ofBytes signature)
  | _ => .none

/-- The node for a medium of which only the data is known. -/
def ofMediaData (subtype : Nat) (data : Bytes) : PathNode :=
  if subtype = 2 then .cdRom
  else if subtype = 1 ∧ data.length = hardDriveSize then .hardDrive (signatureOfData data)
  else if subtype = 3 ∧ 16 ≤ data.length then .vendor (Guid.ofBytes (data.take 16))
  else .other

/-- What a scan makes of a node. -/
def pathNode : NodeKind → PathNode
  | pci | acpi | filePath _ => .other
  | connection c => ofConnection c
  | cdRom => .cdRom
  | hardDrive _ signature => .hardDrive signature
  | vendor guid _ => .vendor guid
  | raw type subtype data =>
    if type = messagingType then ofMessagingSubtype subtype
    else if type = mediaType then ofMediaData subtype data
    else .other

end NodeKind

/-- The nodes on the way to a device. -/
abbrev DevicePath := List DeviceNode

/-- The parts of a path up to each of its connections, the longest first. -/
def DevicePath.upToConnections (path : DevicePath) : List DevicePath :=
  ((path.zipIdx.filter fun (node, _) => node.kind.isMessaging).map fun (_, place) =>
    path.take (place + 1)).reverse

end BootManager.Firmware
