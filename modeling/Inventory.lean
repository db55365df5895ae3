import Inventory.Files.Disk
import Inventory.Main
import Inventory.Proofs.OrdinaryPlay
import Inventory.Proofs.ExactReload
import Inventory.Proofs.BrokenSlots
import Inventory.Proofs.Trial
import Inventory.Proofs.Snapshots
import Inventory.Proofs.SameTexts
import Inventory.Proofs.Resolution
import Inventory.Proofs.Scripts
import Inventory.Proofs.PackFormat
import Inventory.Proofs.Lossless
import Inventory.Proofs.Removals
import Inventory.Proofs.Refusals
import Inventory.Proofs.Accounts
import Inventory.Proofs.ClosestFirst
import Inventory.Proofs.MetadataReaders
import Inventory.Proofs.DroppedCounts
import Inventory.Proofs.Room
import Inventory.Proofs.UniqueItems
import Inventory.Proofs.DishTurns
import Inventory.Proofs.Durability
import Inventory.Proofs.Shooting
import Inventory.Proofs.Equipping
import Inventory.Proofs.SeparateTabs
import Inventory.Proofs.Tokens
import Inventory.Proofs.Backtracking
import Inventory.Proofs.Painting
import Inventory.Proofs.RuleOrder
import Inventory.Proofs.CatalogOrder
import Inventory.Proofs.ShownSaves
import Inventory.Proofs.Progress
