import SystemOnChip.Main
import SystemOnChip.Proofs.AddressMap.Bridge
import SystemOnChip.Proofs.AddressMap.Interrupts
import SystemOnChip.Proofs.AddressMap.PageBounds
import SystemOnChip.Proofs.AddressMap.Pages
import SystemOnChip.Proofs.AddressMap.Requirements
import SystemOnChip.Proofs.AddressMap.SharedWords
import SystemOnChip.Proofs.Bus.LargestFirst
import SystemOnChip.Proofs.Bus.Order
import SystemOnChip.Proofs.Bus.Overlap
import SystemOnChip.Proofs.Constant.History
import SystemOnChip.Proofs.Description.Control
import SystemOnChip.Proofs.Description.Resources
import SystemOnChip.Proofs.Json.Configuration
import SystemOnChip.Proofs.Placement.FirstFit
import SystemOnChip.Proofs.Soc.MainMemory
import SystemOnChip.Proofs.Soc.Refusal
import SystemOnChip.Proofs.AddressMap.Ownership
import SystemOnChip.Proofs.Naming
import SystemOnChip.Proofs.Call.Reporting
import SystemOnChip.Proofs.Reporting
import SystemOnChip.Proofs.Placement.Termination
import SystemOnChip.Proofs.Soc.Exact
