import ReadYourWrites.Config.Flags
import ReadYourWrites.Object.ConfigMap
import ReadYourWrites.Object.Namespace
import ReadYourWrites.Object.Secret
import ReadYourWrites.Session
import ReadYourWrites.Watch.Feed
import ReadYourWrites.Proofs.Version
import ReadYourWrites.Proofs.Object.Typed
import ReadYourWrites.Proofs.Wait.Goal
import ReadYourWrites.Proofs.Wait.Progress
import ReadYourWrites.Proofs.Wait.Rounds
import ReadYourWrites.Proofs.Wait.Course
import ReadYourWrites.Proofs.Client.DropIn
import ReadYourWrites.Proofs.Client.Outcome
import ReadYourWrites.Proofs.Client.History
import ReadYourWrites.Proofs.Client.Visibility
import ReadYourWrites.Proofs.Client.Creation
import ReadYourWrites.Proofs.Client.Deletion
import ReadYourWrites.Proofs.Client.Listing
import ReadYourWrites.Proofs.Watch.Engine
import ReadYourWrites.Proofs.Store.Changes
import ReadYourWrites.Proofs.Store.Readability
import ReadYourWrites.Proofs.Object.Metadata
import ReadYourWrites.Proofs.Store.Contents
import ReadYourWrites.Proofs.Watch.Replay
import ReadYourWrites.Proofs.Client.Cancellation
import ReadYourWrites.Proofs.Selector.Spelling
import ReadYourWrites.Proofs.Store.Selection
import ReadYourWrites.Proofs.Client.Routes
import ReadYourWrites.Proofs.Client.Addressing
import ReadYourWrites.Proofs.Object.Fields
import ReadYourWrites.Proofs.Store.Kinds
import ReadYourWrites.Proofs.Client.Bodies
import ReadYourWrites.Proofs.Client.Failure
import ReadYourWrites.Proofs.Client.Rehearsal
import ReadYourWrites.Proofs.Store.Intersection
import ReadYourWrites.Proofs.Kind
import ReadYourWrites.Proofs.Wait.Reached
