import StellarInsured.Host
import StellarInsured.Versioning.Manager
import StellarInsured.Versioning.Runs
import StellarInsured.Authorization.Library
import StellarInsured.Policy.Contract
import StellarInsured.CrossChain.Contract
import StellarInsured.CrossChain.Runs
import StellarInsured.CrossChain.Messages
import StellarInsured.Authorization.Roles
import StellarInsured.Staking.Contract
import StellarInsured.Staking.Runs
import StellarInsured.Staking.Positions
import StellarInsured.EmergencyPause.Pause
import StellarInsured.EmergencyPause.Runs
import StellarInsured.ErrorHandling.Types
import StellarInsured.ErrorHandling.Recovery
import StellarInsured.CrossChain.Proposals
import StellarInsured.CrossChain.Pagination
import StellarInsured.CrossChain.Registry
import StellarInsured.CrossChain.Tallies
import StellarInsured.CrossChain.Pause
import StellarInsured.Policy.Runs
import StellarInsured.Staking.Pool
import StellarInsured.Staking.Locks
import StellarInsured.Staking.Views
