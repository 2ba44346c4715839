import AccountLending.Main
import AccountLending.Proofs.AccountId
import AccountLending.Proofs.Admission
import AccountLending.Proofs.Alike
import AccountLending.Proofs.Assignment.Choosing
import AccountLending.Proofs.Assignment.Contested
import AccountLending.Proofs.Assignment.Discipline
import AccountLending.Proofs.Assignment.Exclusive
import AccountLending.Proofs.Assignment.Failures
import AccountLending.Proofs.Assignment.Faltering
import AccountLending.Proofs.Assignment.Overtaking
import AccountLending.Proofs.Assignment.Reclaimable
import AccountLending.Proofs.Assignment.Requested
import AccountLending.Proofs.Clearing.Built
import AccountLending.Proofs.Clearing.Clean
import AccountLending.Proofs.Clearing.Conserved
import AccountLending.Proofs.Clearing.Deeds
import AccountLending.Proofs.Clearing.Dependents
import AccountLending.Proofs.Clearing.Emptied
import AccountLending.Proofs.Clearing.Entries
import AccountLending.Proofs.Clearing.Listings
import AccountLending.Proofs.Clearing.Monotone
import AccountLending.Proofs.Clearing.Policies
import AccountLending.Proofs.Clearing.Principals
import AccountLending.Proofs.Clearing.Protection
import AccountLending.Proofs.Clearing.Removing
import AccountLending.Proofs.Clearing.Requests
import AccountLending.Proofs.Clearing.Rerunning
import AccountLending.Proofs.Clearing.Roles
import AccountLending.Proofs.Clearing.Size
import AccountLending.Proofs.Clearing.Survivors
import AccountLending.Proofs.Clearing.Users
import AccountLending.Proofs.Clearing.Whole
import AccountLending.Proofs.CommandLine.Checks
import AccountLending.Proofs.CommandLine.Outcomes
import AccountLending.Proofs.CommandLine.Surroundings
import AccountLending.Proofs.Json.Records
import AccountLending.Proofs.Json.Spelling
import AccountLending.Proofs.Ownership
import AccountLending.Proofs.Paging
import AccountLending.Proofs.Pairing
import AccountLending.Proofs.Performing
import AccountLending.Proofs.Reading
import AccountLending.Proofs.Reclamation.Agreement
import AccountLending.Proofs.Reclamation.Batches
import AccountLending.Proofs.Reclamation.Completion
import AccountLending.Proofs.Reclamation.Failures
import AccountLending.Proofs.Reclamation.Footprint
import AccountLending.Proofs.Reclamation.Guarding
import AccountLending.Proofs.Reclamation.Indexed
import AccountLending.Proofs.Reclamation.Planning
import AccountLending.Proofs.Reclamation.Releasing
import AccountLending.Proofs.Reclamation.Repeating
import AccountLending.Proofs.Reclamation.Resolving
import AccountLending.Proofs.Reclamation.Settled
import AccountLending.Proofs.Reclamation.Turns
import AccountLending.Proofs.RoundTrip
import AccountLending.Proofs.Settings
import AccountLending.Proofs.Silence
import AccountLending.Wire.Script
import AccountLending.World.Connected
import AccountLending.World.Interference
